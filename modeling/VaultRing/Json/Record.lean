import VaultRing.Json.Skip

namespace VaultRing.Json

inductive Form where
  | object
  | list
deriving DecidableEq

structure Member (σ : Type) where
  name : String
  read : σ → Reader σ

structure Record (σ α : Type) where
  expected : String
  members : List (Member σ)
  start : σ
  finish : Form → σ → Except Cause α

namespace Record

variable {σ α : Type}

/-- Passes the opening quote of the next key; `false` at the end of the object. -/
def anotherKey (first : Bool) : Reader Bool := do
  Reader.blanks
  match ← Reader.peek with
  | none => Reader.blame (.unfinished .object)
  | some '\x7d' => pure false
  | some c =>
    if first then
      if c = '"' then do Reader.pass c; pure true else Reader.blame .keyNotString
    else if c = ',' then do
      Reader.pass c
      Reader.blanks
      match ← Reader.peek with
      | some '"' => Reader.pass '"'; pure true
      | some '\x7d' => Reader.blame .trailingComma
      | some _ => Reader.blame .keyNotString
      | none => Reader.blame (.unfinished .value)
    else Reader.blame .objectSeparatorExpected

def objectEnd : Reader Unit := do
  Reader.blanks
  match ← Reader.peek with
  | some '\x7d' => Reader.pass '\x7d'
  | some ',' => Reader.blame .trailingComma
  | some _ => Reader.blame .trailingCharacters
  | none => Reader.blame (.unfinished .object)

def failRecord {β : Type} (cause : Cause) : Reader β := fun p => .error (.record cause p)

/-- The members of an object, at most as many as the text has characters. -/
def objectMembers (members : List (Member σ)) (seen : List String) (first : Bool) (s : σ) :
    Nat → Reader σ
  | 0 => pure s
  | fuel + 1 => do
    if ← anotherKey first then
      let key ← Reader.stringBody
      match members.find? (·.name == key) with
      | some m =>
        if seen.contains key then failRecord (.repeatedMember key)
        else
          Reader.colon
          objectMembers members (key :: seen) false (← m.read s) fuel
      | none =>
        Reader.colon
        Reader.skipValue
        objectMembers members seen false s fuel
    else pure s

/-- The members of a list, in order; the last ones may be left out. -/
def listMembers (first : Bool) (s : σ) : List (Member σ) → Reader σ
  | [] => pure s
  | m :: members => do
    if ← Reader.another first then listMembers false (← m.read s) members else pure s

def closing : Form → Reader Unit
  | .object => objectEnd
  | .list => Reader.listEnd

/-- Where the end of a record is, or where a reader gives up to look for it. -/
def endOffset (form : Form) (p : Cursor) : Nat :=
  let p := p.skipBlanks
  match form, p.rest with
  | .object, '\x7d' :: _ | .list, ']' :: _ => p.offset + 1
  | .list, ',' :: rest => (Cursor.skipBlanks ⟨p.offset + 1, rest⟩).offset
  | _, _ => p.offset

/-- Reads a record up to its closing bracket. A fault of the record as a whole is placed there. -/
def closed {β : Type} (form : Form) (contents : Reader β) : Reader β := fun p =>
  match contents p with
  | .ok (b, q) => (closing form q).map fun (_, q) => (b, q)
  | .error (.record cause q) => .error (.placed (endOffset form q) cause)
  | .error fault => .error fault

def finished (r : Record σ α) (form : Form) (s : σ) : Reader α :=
  match r.finish form s with
  | .ok a => pure a
  | .error cause => failRecord cause

def listContents (r : Record σ α) : Reader α := do
  r.finished .list (← listMembers true r.start r.members)

def objectContents (r : Record σ α) : Reader α := do
  let fuel := (← get).rest.length + 1
  r.finished .object (← objectMembers r.members [] true r.start fuel)

def read (r : Record σ α) : Reader α := do
  let c ← Reader.valueStart
  if c = '[' then do
    Reader.pass c
    closed .list r.listContents
  else if c = '\x7b' then do
    Reader.pass c
    closed .object r.objectContents
  else Reader.wrongKind r.expected

end Record

end VaultRing.Json
