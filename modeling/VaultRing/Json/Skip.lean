import VaultRing.Json.Reader

namespace VaultRing.Json.Reader

inductive Bracket where
  | list
  | object
deriving DecidableEq

def Bracket.close : Bracket → Char
  | .list => ']'
  | .object => '\x7d'

/-- Passes a value that is not a list or an object, or the opening bracket of one that is. -/
def skipStart : Reader (Option Bracket) := do
  match ← valueStart with
  | 'n' => pass 'n'; literal ['u', 'l', 'l']; pure none
  | 't' => pass 't'; literal ['r', 'u', 'e']; pure none
  | 'f' => pass 'f'; literal ['a', 'l', 's', 'e']; pure none
  | '-' => pass '-'; skipNumber; pure none
  | '"' => pass '"'; skipStringBody; pure none
  | '[' => pass '['; pure (some .list)
  | '\x7b' => pass '\x7b'; pure (some .object)
  | c => if c.isDigit then do skipNumber; pure none else blame .valueExpected

def separatorExpected : Bracket → Cause
  | .list => .listSeparatorExpected
  | .object => .objectSeparatorExpected

def unfinished : Bracket → Cause
  | .list => .unfinished .list
  | .object => .unfinished .object

def skipKey : Reader Unit := do
  blanks
  match ← peek with
  | some '"' => pass '"'
  | some _ => blame .keyNotString
  | none => blame (.unfinished .object)
  skipStringBody
  colon

/-- Closes brackets, the innermost first, up to the next value, whose brackets are given. `first`
tells that the innermost bracket has just been opened. -/
def skipEnds (first : Bool) : List Bracket → Reader (List Bracket)
  | [] => pure []
  | b :: outer => do
    blanks
    match ← peek with
    | none => blame (unfinished b)
    | some c =>
      if c = ',' ∧ !first then do pass ','; pure (b :: outer)
      else if c = b.close then do pass c; skipEnds false outer
      else if first then pure (b :: outer)
      else blame (separatorExpected b)

def skipValues (opened : List Bracket) : Nat → Reader Unit
  | 0 => pure ()
  | fuel + 1 => do
    let start ← skipStart
    let opened ← match start with
      | some b => skipEnds true (b :: opened)
      | none => skipEnds false opened
    match opened with
    | [] => pure ()
    | .list :: _ => skipValues opened fuel
    | .object :: _ => do skipKey; skipValues opened fuel

def skipValue : Reader Unit := do
  skipValues [] ((← get).rest.length + 1)

end VaultRing.Json.Reader
