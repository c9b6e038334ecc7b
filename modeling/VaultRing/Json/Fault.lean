import VaultRing.Text.Quoted

namespace VaultRing.Json

inductive Construct where
  | value
  | string
  | list
  | object
deriving DecidableEq

inductive Cause where
  | unfinished (inside : Construct)
  | colonExpected
  | listSeparatorExpected
  | objectSeparatorExpected
  | literalExpected
  | valueExpected
  | invalidEscape
  | unfinishedEscape
  | loneSurrogate
  | invalidNumber
  | numberOutOfRange
  | controlCharacter
  | keyNotString
  | trailingComma
  | trailingCharacters
  | wrongKind (found expected : String)
  | tooShort (length : Nat) (expected : String)
  | missingMember (name : String)
  | repeatedMember (name : String)
  | unknownVariant (name : String) (expected : List String)
  | contents (problem : String)
deriving DecidableEq

def Construct.text : Construct → String
  | .value => "a value"
  | .string => "a string"
  | .list => "a list"
  | .object => "an object"

def accented (name : String) : String := "\x60" ++ name ++ "\x60"

def oneOf : List String → String
  | [] => "there are no variants"
  | [a] => "expected " ++ accented a
  | [a, b] => "expected " ++ accented a ++ " or " ++ accented b
  | names => "expected one of " ++ ", ".intercalate (names.map accented)

def Cause.message : Cause → String
  | .unfinished inside => "EOF while parsing " ++ inside.text
  | .colonExpected => "expected " ++ accented ":"
  | .listSeparatorExpected => "expected " ++ accented "," ++ " or " ++ accented "]"
  | .objectSeparatorExpected => "expected " ++ accented "," ++ " or " ++ accented "\x7d"
  | .literalExpected => "expected ident"
  | .valueExpected => "expected value"
  | .invalidEscape => "invalid escape"
  | .unfinishedEscape => "unexpected end of hex escape"
  | .loneSurrogate => "lone leading surrogate in hex escape"
  | .invalidNumber => "invalid number"
  | .numberOutOfRange => "number out of range"
  | .controlCharacter => "control character (\\u0000-\\u001F) found while parsing a string"
  | .keyNotString => "key must be a string"
  | .trailingComma => "trailing comma"
  | .trailingCharacters => "trailing characters"
  | .wrongKind found expected => "invalid type: " ++ found ++ ", expected " ++ expected
  | .tooShort length expected =>
    "invalid length " ++ toString length ++ ", expected " ++ expected
  | .missingMember name => "missing field " ++ accented name
  | .repeatedMember name => "duplicate field " ++ accented name
  | .unknownVariant name expected =>
    "unknown variant " ++ accented name ++ ", " ++ oneOf expected
  | .contents problem => problem

/-- A place in a text: what is left of it, and how many bytes stand before that. -/
structure Cursor where
  offset : Nat
  rest : List Char
deriving DecidableEq

namespace Cursor

def ofText (s : String) : Cursor := ⟨0, s.toList⟩

def past (p : Cursor) (c : Char) (rest : List Char) : Cursor := ⟨p.offset + c.utf8Size, rest⟩

def isBlank (c : Char) : Bool := c == ' ' || c == '\n' || c == '\t' || c == '\r'

def skipBlanks (p : Cursor) : Cursor :=
  ⟨p.offset + (p.rest.takeWhile isBlank).length, p.rest.dropWhile isBlank⟩

/-- Blames the byte at this place. -/
def blamed (p : Cursor) : Nat := if p.rest.isEmpty then p.offset else p.offset + 1

end Cursor

inductive Fault where
  | placed (offset : Nat) (cause : Cause)
  /-- What is wrong is the record as a whole: the fault belongs where the record ends, which is
  looked for from `p` on. -/
  | record (cause : Cause) (p : Cursor)

structure Error where
  cause : Cause
  line : Nat
  column : Nat
deriving DecidableEq

namespace Error

/-- The line and the column after the first `offset` bytes. -/
def position (line column offset : Nat) : List Char → Nat × Nat
  | [] => (line, column + offset)
  | c :: rest =>
    if offset < c.utf8Size then (line, column + offset)
    else if c = '\n' then position (line + 1) 0 (offset - 1) rest
    else position line (column + c.utf8Size) (offset - c.utf8Size) rest

def ofFault (text : String) : Fault → Error
  | .placed offset cause | .record cause ⟨offset, _⟩ =>
    let (line, column) := position 1 0 offset text.toList
    ⟨cause, line, column⟩

def message (e : Error) : String :=
  e.cause.message ++ " at line " ++ toString e.line ++ " column " ++ toString e.column

end Error

end VaultRing.Json
