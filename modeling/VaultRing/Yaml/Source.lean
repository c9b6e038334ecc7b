import VaultRing.Text.Digits

namespace VaultRing.Yaml

inductive Fault where
  | controlCharacter
  | unexpectedCharacter
  | unfinishedKey
  | misplacedEntry
  | misplacedKey
  | misplacedValue
  | badDirective
  | badAnchor
  | badTag
  | badBlockScalar
  | badPlainScalar
  | badEscape
  | unfinishedScalar
  | badIndentation
  | documentStartExpected
  | nodeExpected
  | keyExpected
  | separatorExpected
  | unfinished
  | unknownAnchor
  | severalDocuments
  | wrongKind
  | repeatedKey
  | contents (problem : String)
deriving DecidableEq

def Fault.message : Fault → String
  | .controlCharacter => "control characters are not allowed"
  | .unexpectedCharacter => "found a character that cannot start a token"
  | .unfinishedKey => "could not find the colon after a key"
  | .misplacedEntry => "a sequence entry is not allowed here"
  | .misplacedKey => "a mapping key is not allowed here"
  | .misplacedValue => "a mapping value is not allowed here"
  | .badDirective => "malformed directive"
  | .badAnchor => "malformed anchor or alias"
  | .badTag => "malformed tag"
  | .badBlockScalar => "malformed block scalar"
  | .badPlainScalar => "malformed plain scalar"
  | .badEscape => "malformed escape sequence"
  | .unfinishedScalar => "unfinished quoted scalar"
  | .badIndentation => "found a tab where blanks are expected"
  | .documentStartExpected => "could not find the start of a document"
  | .nodeExpected => "could not find the content of a node"
  | .keyExpected => "could not find a key or the end of a collection"
  | .separatorExpected => "could not find a separator or the end of a collection"
  | .unfinished => "the document ends too early"
  | .unknownAnchor => "unknown anchor"
  | .severalDocuments => "more than one document"
  | .wrongKind => "a value has the wrong kind"
  | .repeatedKey => "a key is repeated"
  | .contents problem => problem

def isBlank (c : Char) : Bool := c == ' ' || c == '\t'

def isBreak (c : Char) : Bool :=
  c == '\r' || c == '\n' || c.toNat == 0x85 || c.toNat == 0x2028 || c.toNat == 0x2029

def isWhite (c : Char) : Bool := isBlank c || isBreak c

def isWord (c : Char) : Bool := c.isAlphanum || c == '_' || c == '-'

def isByteOrderMark (c : Char) : Bool := c.toNat == 0xFEFF

def isAllowed (c : Char) : Bool :=
  let n := c.toNat
  n == 9 || n == 0xA || n == 0xD || (0x20 ≤ n && n ≤ 0x7E) || n == 0x85 ||
    (0xA0 ≤ n && n ≤ 0xD7FF) || (0xE000 ≤ n && n ≤ 0xFFFD) || 0x10000 ≤ n

structure Source where
  rest : List Char
  index : Nat
  line : Nat
  column : Nat

namespace Source

def ofChars (cs : List Char) : Source := ⟨cs, 0, 0, 0⟩

def atEnd (s : Source) : Bool := s.rest.isEmpty

def skip (s : Source) (n : Nat) : Source :=
  { s with rest := s.rest.drop n, index := s.index + n, column := s.column + n }

def skipWhile (s : Source) (p : Char → Bool) : Source := s.skip (s.rest.takeWhile p).length

/-- Whether the `n`-th character from here satisfies `p`. -/
def holds (s : Source) (n : Nat) (p : Char → Bool) : Bool := (s.rest[n]?).any p

def is (s : Source) (n : Nat) (c : Char) : Bool := s.holds n (· == c)

def whiteOrEndAt (s : Source) (n : Nat) : Bool := (s.rest[n]?).all isWhite

def breakOrEnd (s : Source) : Bool := (s.rest.head?).all isBreak

/-- Passes a line break and gives it as it is kept: the usual ones as a line feed. -/
def readBreak (s : Source) : List Char × Source :=
  match s.rest with
  | '\r' :: '\n' :: rest => (['\n'], ⟨rest, s.index + 2, s.line + 1, 0⟩)
  | c :: rest =>
    if isBreak c then
      (if c.toNat == 0x2028 || c.toNat == 0x2029 then [c] else ['\n'],
        ⟨rest, s.index + 1, s.line + 1, 0⟩)
    else ([], s)
  | [] => ([], s)

def skipBreak (s : Source) : Source := s.readBreak.2

def skipComment (s : Source) : Source :=
  if s.is 0 '#' then s.skipWhile (!isBreak ·) else s

def atDocumentMark (s : Source) : Bool :=
  s.column == 0 &&
    (s.rest.take 3 == ['-', '-', '-'] || s.rest.take 3 == ['.', '.', '.']) && s.whiteOrEndAt 3

end Source

end VaultRing.Yaml
