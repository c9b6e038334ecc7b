import VaultRing.Yaml.Meaning
import VaultRing.Yaml.Source

namespace VaultRing.Yaml

inductive Form where
  | plain
  | singleQuoted
  | doubleQuoted
  | literal
deriving DecidableEq

def isPlainCharacter (c : Char) : Bool :=
  let n := c.toNat
  n == 0xA || (0x20 ≤ n && n ≤ 0x7E) || (0xA0 ≤ n && n ≤ 0xD7FF) ||
    (0xE000 ≤ n && n ≤ 0xFFFD && n ≠ 0xFEFF) || 0x10000 ≤ n

def isIndicator (c : Char) : Bool := "#,[]\x7b\x7d&*!|>'\"%@`".toList.contains c

def atEndOrWhite (cs : List Char) : Bool := (cs.head?).all isWhite

/-- Whether a mark behind the first character ends a plain scalar: a colon before white space, or
a hash behind it. -/
def endsPlain : Char → List Char → Bool
  | _, [] => false
  | before, c :: rest =>
    (c == ':' && atEndOrWhite rest) || (c == '#' && isWhite before) || endsPlain c rest

/-- Whether the first character means something else than itself. -/
def beginsWithMark : List Char → Bool
  | [] => false
  | c :: rest =>
    isIndicator c || ((c == '?' || c == ':' || c == '-') && atEndOrWhite rest) ||
      (c :: rest.take 2 == ['-', '-', '-']) || (c :: rest.take 2 == ['.', '.', '.'])

def hasMarks : List Char → Bool
  | [] => false
  | c :: rest => beginsWithMark (c :: rest) || endsPlain c rest

def someAdjacent (p q : Char → Bool) : List Char → Bool
  | c :: d :: rest => (p c && q d) || someAdjacent p q (d :: rest)
  | _ => false

/-- Spaces before the end of a line, and characters that need an escape, are seen in double quotes
only. -/
def needsEscapes (cs : List Char) : Bool :=
  !cs.all isPlainCharacter || someAdjacent (· == ' ') isBreak cs

def edgesAreWhite (cs : List Char) : Bool :=
  (cs.head?).any isWhite || (cs.getLast?).any isWhite

def plainKeeps (cs : List Char) : Bool :=
  !(needsEscapes cs || edgesAreWhite cs || cs.any isBreak || hasMarks cs)

def singleQuotedKeeps (cs : List Char) : Bool :=
  !(needsEscapes cs || someAdjacent isBreak (· == ' ') cs)

def literalKeeps (cs : List Char) : Bool := !(needsEscapes cs || cs.getLast? == some ' ')

/-- Texts of several lines are literal, texts that would read as something else quoted. -/
def formOf (cs : List Char) : Form :=
  if cs.contains '\n' then (if literalKeeps cs then .literal else .doubleQuoted)
  else if isText cs && !isZeroPadded cs && plainKeeps cs then .plain
  else if singleQuotedKeeps cs then .singleQuoted
  else .doubleQuoted

def indentation : List Char := [' ', ' ']

/-- Each line gets an indentation, unless it is empty. -/
def indented (lineBegins : Bool) : List Char → List Char
  | [] => []
  | c :: rest =>
    if isBreak c then c :: indented true rest
    else (if lineBegins then indentation else []) ++ c :: indented false rest

/-- Quotes are doubled. The closing quote is indented like a line. -/
def writeSingleQuoted (cs : List Char) : List Char :=
  let lines := indented false (cs.flatMap fun c => if c == '\x27' then [c, c] else [c])
  '\x27' :: lines ++ (if (cs.getLast?).any isBreak then indentation else []) ++ ['\x27']

def upperHex (width n : Nat) : List Char :=
  (Text.digits 16 width n).map Char.toUpper

def escapeLetter? (c : Char) : Option Char :=
  match c.toNat with
  | 0x00 => some '0'
  | 0x07 => some 'a'
  | 0x08 => some 'b'
  | 0x09 => some 't'
  | 0x0A => some 'n'
  | 0x0B => some 'v'
  | 0x0C => some 'f'
  | 0x0D => some 'r'
  | 0x1B => some 'e'
  | 0x22 => some '"'
  | 0x5C => some '\\'
  | 0x85 => some 'N'
  | 0x2028 => some 'L'
  | 0x2029 => some 'P'
  | _ => none

def writeEscape (c : Char) : List Char :=
  match escapeLetter? c with
  | some letter => ['\\', letter]
  | none =>
    if isPlainCharacter c then [c]
    else if c.toNat ≤ 0xFF then '\\' :: 'x' :: upperHex 2 c.toNat
    else if c.toNat ≤ 0xFFFF then '\\' :: 'u' :: upperHex 4 c.toNat
    else '\\' :: 'U' :: upperHex 8 c.toNat

def writeDoubleQuoted (cs : List Char) : List Char := '"' :: cs.flatMap writeEscape ++ ['"']

/-- What becomes of the line breaks at the end: one is the rule, none and several are marked. -/
def chomping (cs : List Char) : List Char :=
  match cs.reverse with
  | last :: before =>
    if !isBreak last then ['-'] else if (before.head?).all isBreak then ['+'] else []
  | [] => ['-']

/-- The indentation is written down where the first line does not show it. -/
def writeLiteral (cs : List Char) : List Char :=
  let hint := if (cs.head?).any fun c => c == ' ' || isBreak c then ['2'] else []
  '|' :: hint ++ chomping cs ++ '\n' :: indented true cs

def writeText (cs : List Char) : List Char :=
  match formOf cs with
  | .plain => cs ++ ['\n']
  | .singleQuoted => writeSingleQuoted cs ++ ['\n']
  | .doubleQuoted => writeDoubleQuoted cs ++ ['\n']
  | .literal => writeLiteral cs ++ (if (cs.getLast?).any isBreak then [] else ['\n'])

end VaultRing.Yaml
