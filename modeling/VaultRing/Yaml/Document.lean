import VaultRing.Text.Quoted
import VaultRing.Yaml.Event
import VaultRing.Yaml.Meaning

namespace VaultRing.Yaml

def Scalar.refused (expected : String) (s : Scalar) : Fault :=
  if s.style = .plain ∧ !isText s.text then .wrongKind
  else
    .contents
      ("invalid type: string " ++ Text.quoted (String.ofList s.text) ++ ", expected " ++ expected)

/-- A part of a document. -/
inductive Content where
  | scalar (s : Scalar)
  | collection
  | start (mapping : Bool)
  | finish
deriving DecidableEq

structure Document where
  contents : List Content
  fault : Option Fault
  alone : Bool

/-- What is known of anchors: the number of each name, and the node of each number. A name that
comes again gets a new number, the count of names so far. -/
structure Anchors where
  numbers : List (List Char × Nat)
  nodes : List (Nat × Content)

namespace Anchors

def empty : Anchors := ⟨[], []⟩

def number? (a : Anchors) (name : List Char) : Option Nat :=
  (a.numbers.find? (·.1 == name)).map (·.2)

def add (a : Anchors) (name : List Char) (c : Content) : Anchors :=
  let n := a.numbers.length
  ⟨a.numbers.filter (·.1 ≠ name) ++ [(name, n)], (n, c) :: a.nodes⟩

def node (a : Anchors) (n : Nat) : Content :=
  ((a.nodes.find? (·.1 == n)).map (·.2)).getD .collection

end Anchors

inductive Loaded where
  | content (c : Content)
  | alias (n : Nat)

namespace Document

def anchored (a : Anchors) (anchor : Option (List Char)) (c : Content) : Anchors :=
  match anchor with
  | none => a
  | some name => a.add name c

def load (a : Anchors) : List Event → List Loaded × Anchors × Option Fault × List Event
  | [] => ([], a, some .unfinished, [])
  | .documentEnd :: rest => ([], a, none, rest)
  | .streamEnd :: _ => ([], a, none, [.streamEnd])
  | .documentStart :: rest => load a rest
  | .alias name :: rest =>
    match a.number? name with
    | none => ([], a, some .unknownAnchor, [])
    | some n => let (ls, r) := load a rest; (.alias n :: ls, r)
  | .scalar anchor s :: rest =>
    let (ls, r) := load (anchored a anchor (.scalar s)) rest
    (.content (.scalar s) :: ls, r)
  | .sequenceStart anchor :: rest =>
    let (ls, r) := load (anchored a anchor .collection) rest
    (.content (.start false) :: ls, r)
  | .mappingStart anchor :: rest =>
    let (ls, r) := load (anchored a anchor .collection) rest
    (.content (.start true) :: ls, r)
  | .sequenceEnd :: rest | .mappingEnd :: rest =>
    let (ls, r) := load a rest
    (.content .finish :: ls, r)

def resolve (a : Anchors) : Loaded → Content
  | .content c => c
  | .alias n => a.node n

def ofChars (cs : List Char) : Document :=
  let (loaded, anchors, fault, rest) := load .empty (events cs).1
  ⟨loaded.map (resolve anchors), fault, rest == [.streamEnd]⟩

/-- What follows the next node. -/
def afterNode (depth : Nat) : List Content → Except Fault (List Content)
  | [] => .error .unfinished
  | c :: rest =>
    let depth := match c with
      | .start _ => depth + 1
      | .finish => depth - 1
      | _ => depth
    if depth = 0 then .ok rest else afterNode depth rest

variable {σ : Type}

/-- Reads the pairs of a mapping, in order. `pair` gets the key and the value, if that is a
scalar. -/
def readPairs (pair : σ → String → Option Scalar → Except Fault σ) (s : σ)
    (contents : List Content) : Nat → Except Fault (σ × List Content)
  | 0 => .error .unfinished
  | fuel + 1 =>
    match contents with
    | .finish :: rest => .ok (s, rest)
    | .scalar key :: value => do
      let rest ← afterNode 0 value
      let scalar? := match value with
        | .scalar v :: _ => some v
        | _ => none
      let s ← pair s (String.ofList key.text) scalar?
      readPairs pair s rest fuel
    | [] => .error .unfinished
    | _ => .error .wrongKind

def readMapping (name : String) (pair : σ → String → Option Scalar → Except Fault σ) (s : σ)
    (d : Document) : Except Fault σ := do
  let s ← match d.contents with
    | [] => if d.fault.isNone then pure s else throw .unfinished
    | .scalar v :: _ =>
      if v.text.isEmpty && v.style = .plain then pure s else throw (v.refused name)
    | .start true :: rest => Prod.fst <$> readPairs pair s rest (d.contents.length + 1)
    | _ => throw .wrongKind
  match d.fault with
  | some fault => throw fault
  | none => if d.alone then pure s else throw .severalDocuments

end Document

end VaultRing.Yaml
