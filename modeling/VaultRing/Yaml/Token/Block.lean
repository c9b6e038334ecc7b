import VaultRing.Yaml.Source

namespace VaultRing.Yaml.Block

inductive Chomping where
  | strip
  | clip
  | keep
deriving DecidableEq

structure Header where
  chomping : Chomping
  indent : Option Nat

def chomping? (c : Char) : Option Chomping :=
  match c with
  | '-' => some .strip
  | '+' => some .keep
  | _ => none

def isIndent (c : Char) : Bool := c.isDigit && c != '0'

/-- An indicator each of chomping and indentation, in any order. -/
def header (s : Source) : Except Fault (Header × Source) :=
  match s.rest with
  | c :: rest =>
    match chomping? c with
    | some ch =>
      match rest with
      | d :: _ =>
        if isIndent d then .ok (⟨ch, some (Text.decimalValue d)⟩, s.skip 2)
        else if d == '0' then .error .badBlockScalar
        else .ok (⟨ch, none⟩, s.skip 1)
      | [] => .ok (⟨ch, none⟩, s.skip 1)
    | none =>
      if isIndent c then
        match rest.head?.bind chomping? with
        | some ch => .ok (⟨ch, some (Text.decimalValue c)⟩, s.skip 2)
        | none => .ok (⟨.clip, some (Text.decimalValue c)⟩, s.skip 1)
      else if c == '0' then .error .badBlockScalar
      else .ok (⟨.clip, none⟩, s)
  | [] => .ok (⟨.clip, none⟩, s)

/-- Passes indentation and empty lines. An `indent` of zero is not known yet: `widest` is the
largest column met. -/
def emptyLines (indent widest : Nat) (breaks : List Char) (s : Source) :
    Nat → Except Fault (List Char × Nat × Source)
  | 0 => .ok (breaks, widest, s)
  | fuel + 1 =>
    let room := (s.rest.takeWhile (· == ' ')).length
    let s := s.skip (if indent = 0 then room else min room (indent - s.column))
    let widest := max widest s.column
    if (indent = 0 || s.column < indent) && s.is 0 '\t' then .error .badIndentation
    else if s.holds 0 isBreak then
      let (b, s) := s.readBreak
      emptyLines indent widest (breaks ++ b) s fuel
    else .ok (breaks, widest, s)

/-- The text of the lines from `s` on. `lead` is the break of the line before, `blankBefore` tells
whether that line began with a blank, and `trail` holds the breaks of empty lines since. -/
def lines (literal : Bool) (chomping : Chomping) (indent : Nat) (lead trail : List Char)
    (blankBefore : Bool) (s : Source) : Nat → Except Fault (List Char × Source)
  | 0 => .ok ([], s)
  | fuel + 1 =>
    if s.column ≠ indent ∨ s.atEnd then
      let tail := match chomping with
        | .strip => []
        | .clip => lead
        | .keep => lead ++ trail
      .ok (tail, s)
    else do
      let blank := s.holds 0 isBlank
      let between :=
        if !literal && lead == ['\n'] && !blankBefore && !blank then
          if trail.isEmpty then [' '] else trail
        else lead ++ trail
      let cs := s.rest.takeWhile (!isBreak ·)
      let (lead, s) := (s.skip cs.length).readBreak
      let (trail, _, s) ← emptyLines indent 0 [] s (s.rest.length + 1)
      let (others, s) ← lines literal chomping indent lead trail blank s fuel
      return (between ++ cs ++ others, s)

def contents (literal : Bool) (parent : Int) (s : Source) : Except Fault (List Char × Source) := do
  let (header, s) ← header s
  let s := (s.skipWhile isBlank).skipComment
  if !s.breakOrEnd then throw .badBlockScalar
  let s := s.skipBreak
  let given : Nat := match header.indent with
    | none => 0
    | some n => if 0 ≤ parent then parent.toNat + n else n
  let (trail, widest, s) ← emptyLines given 0 [] s (s.rest.length + 1)
  let indent := if given = 0 then max widest (max (parent + 1) 1).toNat else given
  lines literal header.chomping indent [] trail false s (s.rest.length + 1)

end VaultRing.Yaml.Block
