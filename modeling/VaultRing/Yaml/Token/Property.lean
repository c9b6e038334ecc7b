import VaultRing.Yaml.Source
import VaultRing.Yaml.Token

namespace VaultRing.Yaml.Property

def name (s : Source) : Except Fault (List Char × Source) :=
  let s := s.skip 1
  let cs := s.rest.takeWhile isWord
  let s := s.skip cs.length
  let ends (c : Char) : Bool :=
    isWhite c || ['?', ':', ',', ']', '\x7d', '%', '@', '\x60'].contains c
  if !cs.isEmpty && (s.rest.head?).all ends then .ok (cs, s) else .error .badAnchor

def isTagChar (bracketed : Bool) (c : Char) : Bool :=
  isWord c || [';', '/', '?', ':', '@', '&', '=', '+', '$', '.', '%', '!', '~', '*', '\x27', '(',
    ')'].contains c || (bracketed && (c == ',' || c == '[' || c == ']'))

def tagBytes? : List Char → Option Bytes
  | '%' :: a :: b :: rest =>
    (Text.number? 16 [a, b]).bind fun byte => (tagBytes? rest).map (UInt8.ofNat byte :: ·)
  | '%' :: _ => none
  | c :: rest => (tagBytes? rest).map (String.utf8EncodeChar c ++ ·)
  | [] => some []

/-- How many bytes of a character in UTF-8 follow its first one. -/
def followers? (first : UInt8) : Option Nat :=
  let n := first.toNat
  if n < 0x80 then some 0
  else if n < 0xC0 then none
  else if n < 0xE0 then some 1
  else if n < 0xF0 then some 2
  else if n < 0xF8 then some 3
  else none

def isFollower (byte : UInt8) : Bool := 0x80 ≤ byte.toNat && byte.toNat < 0xC0

/-- Whether bytes have the form of characters in UTF-8, whatever these are. `due` more belong to the
one begun before. -/
def areCharacters (due : Nat) : Bytes → Bool
  | [] => due == 0
  | byte :: rest =>
    if due = 0 then (followers? byte).any fun due => areCharacters due rest
    else isFollower byte && areCharacters (due - 1) rest

/-- The text of a tag, which is not empty unless something stands before it. A zero byte ends it. -/
def tagText (bracketed : Bool) (before : List Char) (s : Source) :
    Except Fault (Bytes × Source) :=
  let cs := s.rest.takeWhile (isTagChar bracketed)
  if cs.isEmpty && before.isEmpty then .error .badTag
  else
    match (tagBytes? cs).filter (areCharacters 0) with
    | none => .error .badTag
    | some bytes =>
      let text := textBytes (String.ofList (before.drop 1)) ++ bytes
      .ok (text.takeWhile (·.toNat ≠ 0), s.skip cs.length)

/-- `!`, `!!` or `!word!`, or `!word` that begins a tag. -/
def handle (s : Source) : Except Fault (List Char × Source) :=
  if !s.is 0 '!' then .error .badTag
  else
    let cs := ((s.skip 1).rest.takeWhile isWord)
    let r := s.skip (1 + cs.length)
    if r.is 0 '!' then .ok ('!' :: cs ++ ['!'], r.skip 1) else .ok ('!' :: cs, r)

def isClosedHandle (h : List Char) : Bool := 1 < h.length && h.getLast? == some '!'

def tag (inFlow : Bool) (s : Source) : Except Fault (Token × Source) := do
  let (token, s) ←
    if s.is 1 '<' then do
      let (text, s) ← tagText true [] (s.skip 2)
      if s.is 0 '>' then pure (Token.tag [] text, s.skip 1) else throw Fault.badTag
    else do
      let (h, s) ← handle s
      if isClosedHandle h then do
        let (suffix, s) ← tagText false [] s
        pure (Token.tag h suffix, s)
      else do
        let (suffix, s) ← tagText false h s
        pure (if suffix.isEmpty then Token.tag [] (textBytes "!") else Token.tag ['!'] suffix, s)
  if (inFlow && s.is 0 ',') || s.whiteOrEndAt 0 then return (token, s) else throw .badTag

def versionNumber (s : Source) : Except Fault (Nat × Source) :=
  let ds := s.rest.takeWhile Char.isDigit
  if ds.isEmpty ∨ 9 < ds.length then .error .badDirective
  else .ok (Text.decimal ds, s.skip ds.length)

def version (s : Source) : Except Fault (Token × Source) := do
  let (major, s) ← versionNumber (s.skipWhile isBlank)
  if !s.is 0 '.' then throw .badDirective
  let (minor, s) ← versionNumber (s.skip 1)
  return (.version major minor, s)

def tagHandle (s : Source) : Except Fault (Token × Source) := do
  let (h, s) ← handle (s.skipWhile isBlank)
  if h ≠ ['!'] ∧ !isClosedHandle h then throw .badDirective
  if !s.holds 0 isBlank then throw .badDirective
  let (stem, s) ← tagText true [] (s.skipWhile isBlank)
  if s.whiteOrEndAt 0 then return (.tagHandle h stem, s) else throw .badDirective

def directive (s : Source) : Except Fault (Token × Source) := do
  let s := s.skip 1
  let name := s.rest.takeWhile isWord
  let s := s.skip name.length
  if name.isEmpty || !s.whiteOrEndAt 0 then throw .badDirective
  let (token, s) ←
    if name = "YAML".toList then version s
    else if name = "TAG".toList then tagHandle s
    else throw .badDirective
  let s := (s.skipWhile isBlank).skipComment
  if s.breakOrEnd then return (token, s.skipBreak) else throw .badDirective

end VaultRing.Yaml.Property
