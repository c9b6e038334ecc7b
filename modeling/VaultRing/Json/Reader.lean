import VaultRing.Json.Number
import VaultRing.Json.Text

namespace VaultRing.Json

abbrev Reader := StateT Cursor (Except Fault)

namespace Reader

variable {α : Type}

/-- Fails behind what has been read. -/
def fail (cause : Cause) : Reader α := fun p => .error (.placed p.offset cause)

/-- Fails at the next byte. -/
def blame (cause : Cause) : Reader α := fun p => .error (.placed p.blamed cause)

def blanks : Reader Unit := modify Cursor.skipBlanks

def peek : Reader (Option Char) := fun p => .ok (p.rest.head?, p)

/-- Passes one character, which `peek` has shown to be `c`. -/
def pass (c : Char) : Reader Unit := modify fun p => p.past c (p.rest.drop 1)

def literal : List Char → Reader Unit
  | [] => pure ()
  | l :: letters => fun p =>
    match p.rest with
    | [] => .error (.placed p.offset (.unfinished .value))
    | c :: rest =>
      if c = l then literal letters ⟨p.offset + 1, rest⟩
      else .error (.placed (p.offset + 1) .literalExpected)

def stringBody : Reader String := fun p =>
  (Text.body p.offset none p.rest).map fun (s, q) => (String.ofList s, q)

def skipStringBody : Reader Unit := fun p => (Text.skip p.offset p.rest).map ((), ·)

def number (negative : Bool) : Reader Number := Number.read negative

def skipNumber : Reader Unit := fun p => (Number.skip p).map ((), ·)

def colon : Reader Unit := do
  blanks
  match ← peek with
  | some ':' => pass ':'
  | some _ => blame .colonExpected
  | none => blame (.unfinished .object)

/-- Fails because the value that comes next is not of the expected kind. The value is read as far
as needed to name it. -/
def wrongKind (expected : String) : Reader α := do
  match ← peek with
  | some 'n' => pass 'n'; literal ['u', 'l', 'l']; fail (.wrongKind "null" expected)
  | some 't' =>
    pass 't'; literal ['r', 'u', 'e']
    fail (.wrongKind ("boolean " ++ accented "true") expected)
  | some 'f' =>
    pass 'f'; literal ['a', 'l', 's', 'e']
    fail (.wrongKind ("boolean " ++ accented "false") expected)
  | some '-' => pass '-'; let n ← number true; fail (.wrongKind n.shown expected)
  | some '"' =>
    pass '"'; let s ← stringBody; fail (.wrongKind ("string " ++ VaultRing.Text.quoted s) expected)
  | some '[' => fail (.wrongKind "sequence" expected)
  | some '\x7b' => fail (.wrongKind "map" expected)
  | some c =>
    if c.isDigit then do let n ← number false; fail (.wrongKind n.shown expected)
    else blame .valueExpected
  | none => blame .valueExpected

def valueStart : Reader Char := do
  blanks
  match ← peek with
  | some c => pure c
  | none => blame (.unfinished .value)

def name (convert : String → Except Cause α) : Reader α := do
  pass '"'
  match convert (← stringBody) with
  | .ok a => pure a
  | .error cause => fail cause

def string (expected : String) (convert : String → Except Cause α) : Reader α := do
  if (← valueStart) = '"' then name convert else wrongKind expected

def text : Reader String := string "a string" .ok

def optional (r : Reader α) : Reader (Option α) := do
  blanks
  match ← peek with
  | some 'n' => pass 'n'; literal ['u', 'l', 'l']; pure none
  | _ => some <$> r

def null : Reader Unit := do
  let c ← valueStart
  if c = 'n' then do pass 'n'; literal ['u', 'l', 'l'] else wrongKind "unit"

/-- The only key of an object whose brace has been passed. An object without keys names nothing. -/
def onlyKey (ofName : String → Except Cause α) : Reader α := do
  blanks
  match ← peek with
  | some '"' => name ofName
  | some '\x7d' => blame .valueExpected
  | some _ => blame .keyNotString
  | none => blame (.unfinished .object)

/-- The name of one of several variants, alone or as the only key of an object with the value
`null`. -/
def variant (ofName : String → Except Cause α) : Reader α := do
  let c ← valueStart
  if c = '"' then name ofName
  else if c = '\x7b' then do
    pass '\x7b'
    let a ← onlyKey ofName
    colon
    null
    blanks
    match ← peek with
    | some '\x7d' => pass '\x7d'; pure a
    | some _ => fail .valueExpected
    | none => fail (.unfinished .object)
  else blame .valueExpected

def another (first : Bool) : Reader Bool := do
  blanks
  match ← peek with
  | none => blame (.unfinished .list)
  | some ']' => pure false
  | some c =>
    if first then pure true
    else if c = ',' then do
      pass ','
      blanks
      match ← peek with
      | some ']' => blame .trailingComma
      | some _ => pure true
      | none => blame (.unfinished .value)
    else blame .listSeparatorExpected

def listEnd : Reader Unit := do
  blanks
  match ← peek with
  | some ']' => pass ']'
  | some ',' =>
    pass ','
    blanks
    if (← peek) = some ']' then blame .trailingComma else blame .trailingCharacters
  | some _ => blame .trailingCharacters
  | none => blame (.unfinished .list)

/-- The elements of a list, at most as many as the text has characters. -/
def elements (item : Reader α) (first : Bool) : Nat → Reader (List α)
  | 0 => pure []
  | fuel + 1 => do
    if ← another first then
      let a ← item
      return a :: (← elements item false fuel)
    else pure []

def listOf (item : Reader α) : Reader (List α) := do
  let c ← valueStart
  if c = '[' then
    pass '['
    let items ← elements item true ((← get).rest.length + 1)
    listEnd
    pure items
  else wrongKind "a sequence"

/-- A whole text: nothing but blanks may follow the value. -/
def run (r : Reader α) (s : String) : Except Error α :=
  let whole : Reader α := do
    let a ← r
    blanks
    if (← peek).isSome then blame .trailingCharacters else pure a
  match whole (Cursor.ofText s) with
  | .ok (a, _) => .ok a
  | .error fault => .error (Error.ofFault s fault)

end Reader

end VaultRing.Json
