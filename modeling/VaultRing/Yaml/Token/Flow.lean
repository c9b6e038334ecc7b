import VaultRing.Yaml.Source

namespace VaultRing.Yaml

/-- White space between the parts of a scalar. -/
structure Gap where
  broken : Bool
  blanks : List Char
  first : List Char
  others : List Char

namespace Gap

def empty : Gap := ⟨false, [], [], []⟩

def text (g : Gap) : List Char :=
  if !g.broken then g.blanks
  else if g.first == ['\n'] then (if g.others.isEmpty then [' '] else g.others)
  else g.first ++ g.others

/-- Goes on with the white space at `s`. Left of `indent`, no tab may stand on a line of its
own. -/
def read (indent : Nat) (g : Gap) (s : Source) : Nat → Except Fault (Gap × Source)
  | 0 => .ok (g, s)
  | fuel + 1 =>
    match s.rest with
    | [] => .ok (g, s)
    | c :: _ =>
      if isBlank c then
        if !g.broken then read indent { g with blanks := g.blanks ++ [c] } (s.skip 1) fuel
        else if c == '\t' && s.column < indent then .error .badIndentation
        else read indent g (s.skip 1) fuel
      else if isBreak c then
        let (b, s) := s.readBreak
        if g.broken then read indent { g with others := g.others ++ b } s fuel
        else read indent ⟨true, [], b, []⟩ s fuel
      else .ok (g, s)

end Gap

namespace Quoted

def escaped? (c : Char) : Option Char :=
  match c with
  | '0' => some '\x00'
  | 'a' => some '\x07'
  | 'b' => some '\x08'
  | 't' | '\t' => some '\t'
  | 'n' => some '\n'
  | 'v' => some '\x0b'
  | 'f' => some '\x0c'
  | 'r' => some '\r'
  | 'e' => some '\x1b'
  | ' ' => some ' '
  | '"' => some '"'
  | '/' => some '/'
  | '\\' => some '\\'
  | 'N' => some (Char.ofNat 0x85)
  | '_' => some (Char.ofNat 0xA0)
  | 'L' => some (Char.ofNat 0x2028)
  | 'P' => some (Char.ofNat 0x2029)
  | _ => none

def escapeDigits? (c : Char) : Option Nat :=
  match c with
  | 'x' => some 2
  | 'u' => some 4
  | 'U' => some 8
  | _ => none

def codePoint? (ds : List Char) (count : Nat) : Option Char :=
  if ds.length < count then none
  else
    (Text.number? 16 (ds.take count)).bind fun n =>
      if 0x10FFFF < n ∨ (0xD800 ≤ n ∧ n ≤ 0xDFFF) then none else some (Char.ofNat n)

inductive Stop where
  | plain
  /-- A line break behind a backslash, which has been passed. -/
  | escapedBreak

def run (single : Bool) (s : Source) : Nat → Except Fault (List Char × Stop × Source)
  | 0 => .ok ([], .plain, s)
  | fuel + 1 =>
    let quote := if single then '\x27' else '"'
    match s.rest with
    | [] => .ok ([], .plain, s)
    | c :: rest =>
      if isWhite c then .ok ([], .plain, s)
      else if single && c == quote && rest.head? == some quote then
        (run single (s.skip 2) fuel).map fun (cs, r) => (quote :: cs, r)
      else if c == quote then .ok ([], .plain, s)
      else if !single && c == '\\' then
        match rest with
        | [] => .error .badEscape
        | e :: ds =>
          if isBreak e then .ok ([], .escapedBreak, (s.skip 1).skipBreak)
          else
            match escaped? e, escapeDigits? e with
            | some d, _ => (run single (s.skip 2) fuel).map fun (cs, r) => (d :: cs, r)
            | none, none => .error .badEscape
            | none, some count =>
              match codePoint? ds count with
              | none => .error .badEscape
              | some d =>
                (run single (s.skip (2 + count)) fuel).map fun (cs, r) => (d :: cs, r)
      else (run single (s.skip 1) fuel).map fun (cs, r) => (c :: cs, r)

def contents (single : Bool) (s : Source) : Nat → Except Fault (List Char × Source)
  | 0 => .error .unfinishedScalar
  | fuel + 1 =>
    if s.atDocumentMark || s.atEnd then .error .unfinishedScalar
    else do
      let (cs, stop, s) ← run single s s.rest.length
      if s.is 0 (if single then '\x27' else '"') then return (cs, s.skip 1)
      let start : Gap := match stop with
        | .plain => .empty
        | .escapedBreak => ⟨true, [], [], []⟩
      let (gap, s) ← start.read 0 s s.rest.length
      let (others, s) ← contents single s fuel
      return (cs ++ gap.text ++ others, s)

end Quoted

namespace Plain

def isFlowMark (c : Char) : Bool :=
  c == ',' || c == '[' || c == ']' || c == '\x7b' || c == '\x7d'

/-- The characters up to white space or a mark that ends the scalar. -/
def run (inFlow : Bool) : List Char → Except Fault (List Char)
  | [] => .ok []
  | c :: rest =>
    if isWhite c then .ok []
    else if inFlow && c == ':' && (rest.head?).any (fun d => isFlowMark d || d == '?') then
      .error .badPlainScalar
    else if (c == ':' && (rest.head?).all isWhite) || (inFlow && isFlowMark c) then .ok []
    else (run inFlow rest).map (c :: ·)

/-- The scalar, with whether a line has ended behind it. The gap before `s` is given; lines left
of `indent` do not belong to it. -/
def contents (inFlow : Bool) (indent : Nat) (gap : Gap) (s : Source) :
    Nat → Except Fault (List Char × Bool × Source)
  | 0 => .ok ([], gap.broken, s)
  | fuel + 1 =>
    if s.atDocumentMark || s.is 0 '#' then .ok ([], gap.broken, s)
    else do
      let cs ← run inFlow s.rest
      if cs.isEmpty then return ([], gap.broken, s)
      let before := gap.text
      let s := s.skip cs.length
      if !s.holds 0 isWhite then return (before ++ cs, false, s)
      let (gap, s) ← Gap.empty.read indent s s.rest.length
      if !inFlow && s.column < indent then return (before ++ cs, gap.broken, s)
      let (others, broken, s) ← contents inFlow indent gap s fuel
      return (before ++ cs ++ others, broken, s)

end Plain

end VaultRing.Yaml
