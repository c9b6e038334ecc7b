import VaultRing.Yaml.Token.Block
import VaultRing.Yaml.Token.Flow
import VaultRing.Yaml.Token.Property

namespace VaultRing.Yaml

/-- Where a key may have begun: before the token with this number. -/
structure KeyPlace where
  required : Bool
  number : Nat
  index : Nat
  line : Nat
  column : Nat

structure Lexer where
  source : Source
  tokens : List Token
  indent : Int
  indents : List Int
  keyAllowed : Bool
  /-- The possible key of every open flow collection, the innermost first, and last that of the
  blocks around them. -/
  keys : List (Option KeyPlace)
  ended : Bool

namespace Lexer

def start (source : Source) : Lexer := ⟨source, [.streamStart], -1, [], true, [none], false⟩

def inFlow (s : Lexer) : Bool := 1 < s.keys.length

def column (s : Lexer) : Int := s.source.column

def push (s : Lexer) (t : Token) : Lexer := { s with tokens := s.tokens ++ [t] }

def insertAt (s : Lexer) (number : Nat) (t : Token) : Lexer :=
  { s with tokens := s.tokens.take number ++ t :: s.tokens.drop number }

def skip (s : Lexer) (n : Nat) : Lexer := { s with source := s.source.skip n }

def keyReach : Nat := 1024

def isTooFar (source : Source) (k : KeyPlace) : Bool :=
  k.line < source.line || k.index + keyReach < source.index

def forgetFarKeys (s : Lexer) : Except Fault Lexer :=
  let far (k? : Option KeyPlace) : Bool := k?.any (isTooFar s.source)
  if s.keys.any fun k? => far k? && k?.any (·.required) then .error .unfinishedKey
  else .ok { s with keys := s.keys.map fun k? => if far k? then none else k? }

def forgetKey (s : Lexer) : Except Fault Lexer :=
  match s.keys with
  | some k :: keys =>
    if k.required then .error .unfinishedKey else .ok { s with keys := none :: keys }
  | _ => .ok s

/-- Remembers this place if a key is allowed here. -/
def rememberKey (s : Lexer) : Except Fault Lexer :=
  if !s.keyAllowed then .ok s
  else
    s.forgetKey.map fun s =>
      let k : KeyPlace :=
        ⟨!s.inFlow && s.indent == s.column, s.tokens.length, s.source.index, s.source.line,
          s.source.column⟩
      { s with keys := some k :: s.keys.drop 1 }

def beginBlock (s : Lexer) (column : Nat) (number : Nat) (t : Token) : Lexer :=
  if s.inFlow || (column : Int) ≤ s.indent then s
  else { s.insertAt number t with indent := column, indents := s.indent :: s.indents }

/-- Ends the blocks that are right of a column. -/
def endBlocksFrom (s : Lexer) (column : Int) : List Int → Lexer
  | [] => s
  | outer :: indents =>
    if s.indent ≤ column then s
    else endBlocksFrom { s.push .blockEnd with indent := outer, indents } column indents

def endBlocks (s : Lexer) (column : Int) : Lexer :=
  if s.inFlow then s else s.endBlocksFrom column s.indents

/-- Passes white space, comments and a mark at the front of a line. A line break in a block allows a
key, and where one is allowed a tab is no white space. -/
def skipGap (s : Lexer) : Nat → Lexer
  | 0 => s
  | fuel + 1 =>
    let source := s.source
    let marked := source.column == 0 && source.holds 0 isByteOrderMark
    let source := if marked then source.skip 1 else source
    let tabs := s.inFlow || !s.keyAllowed
    let source := (source.skipWhile fun c => c == ' ' || (tabs && c == '\t')).skipComment
    if source.holds 0 isBreak then
      skipGap { s with source := source.skipBreak, keyAllowed := s.keyAllowed || !s.inFlow } fuel
    else { s with source }

def readEnd (s : Lexer) : Except Fault Lexer :=
  (s.endBlocks (-1)).forgetKey.map fun s =>
    { s.push .streamEnd with keyAllowed := false, ended := true }

def readDirective (s : Lexer) : Except Fault Lexer := do
  let s ← (s.endBlocks (-1)).forgetKey
  let (t, source) ← Property.directive s.source
  return { s.push t with source, keyAllowed := false }

def readDocumentMark (s : Lexer) (t : Token) : Except Fault Lexer :=
  (s.endBlocks (-1)).forgetKey.map fun s => { (s.push t).skip 3 with keyAllowed := false }

def readFlowStart (s : Lexer) (t : Token) : Except Fault Lexer :=
  s.rememberKey.map fun s => { (s.push t).skip 1 with keys := none :: s.keys, keyAllowed := true }

def readFlowEnd (s : Lexer) (t : Token) : Except Fault Lexer :=
  s.forgetKey.map fun s =>
    { (s.push t).skip 1 with
      keys := if s.inFlow then s.keys.drop 1 else s.keys
      keyAllowed := false }

def readFlowEntry (s : Lexer) : Except Fault Lexer :=
  s.forgetKey.map fun s => { (s.push .flowEntry).skip 1 with keyAllowed := true }

def openBlock (s : Lexer) (t : Token) (fault : Fault) : Except Fault Lexer :=
  if s.inFlow then .ok s
  else if !s.keyAllowed then .error fault
  else .ok (s.beginBlock s.source.column s.tokens.length t)

def readBlockEntry (s : Lexer) : Except Fault Lexer := do
  let s ← (← s.openBlock .blockSequenceStart .misplacedEntry).forgetKey
  return { (s.push .blockEntry).skip 1 with keyAllowed := true }

def readKey (s : Lexer) : Except Fault Lexer := do
  let s ← (← s.openBlock .blockMappingStart .misplacedKey).forgetKey
  return { (s.push .key).skip 1 with keyAllowed := !s.inFlow }

def readValue (s : Lexer) : Except Fault Lexer :=
  match s.keys with
  | some k :: keys =>
    let s := (s.insertAt k.number .key).beginBlock k.column k.number .blockMappingStart
    .ok { (s.push .value).skip 1 with keys := none :: keys, keyAllowed := false }
  | _ =>
    (s.openBlock .blockMappingStart .misplacedValue).map fun s =>
      { (s.push .value).skip 1 with keyAllowed := !s.inFlow }

def readAnchor (s : Lexer) (t : List Char → Token) : Except Fault Lexer := do
  let s ← s.rememberKey
  let (name, source) ← Property.name s.source
  return { s.push (t name) with source, keyAllowed := false }

def readTag (s : Lexer) : Except Fault Lexer := do
  let s ← s.rememberKey
  let (t, source) ← Property.tag s.inFlow s.source
  return { s.push t with source, keyAllowed := false }

def readBlockScalar (s : Lexer) (literal : Bool) : Except Fault Lexer := do
  let s ← s.forgetKey
  let (text, source) ← Block.contents literal s.indent (s.source.skip 1)
  return { s.push (.scalar text (if literal then .literal else .folded)) with
    source, keyAllowed := true }

def readQuoted (s : Lexer) (single : Bool) : Except Fault Lexer := do
  let s ← s.rememberKey
  let (text, source) ← Quoted.contents single (s.source.skip 1) s.source.rest.length
  return { s.push (.scalar text (if single then .singleQuoted else .doubleQuoted)) with
    source, keyAllowed := false }

def readPlain (s : Lexer) : Except Fault Lexer := do
  let s ← s.rememberKey
  let (text, broken, source) ←
    Plain.contents s.inFlow (s.indent + 1).toNat Gap.empty s.source (s.source.rest.length + 1)
  return { s.push (.scalar text .plain) with source, keyAllowed := broken }

def isIndicator (c : Char) : Bool :=
  ['-', '?', ':', ',', '[', ']', '\x7b', '\x7d', '#', '&', '*', '!', '|', '>', '\x27', '"', '%',
    '@', '\x60'].contains c

def startsPlain (inFlow : Bool) (c : Char) (source : Source) : Bool :=
  !(isIndicator c || isWhite c) || (c == '-' && !source.holds 1 isBlank) ||
    (!inFlow && (c == '?' || c == ':') && !source.whiteOrEndAt 1)

def readAt (s : Lexer) (c : Char) : Except Fault Lexer :=
  let source := s.source
  if source.column == 0 && c == '%' then s.readDirective
  else if source.atDocumentMark then
    s.readDocumentMark (if c == '-' then .documentStart else .documentEnd)
  else if c == '[' then s.readFlowStart .flowSequenceStart
  else if c == '\x7b' then s.readFlowStart .flowMappingStart
  else if c == ']' then s.readFlowEnd .flowSequenceEnd
  else if c == '\x7d' then s.readFlowEnd .flowMappingEnd
  else if c == ',' then s.readFlowEntry
  else if c == '-' && source.whiteOrEndAt 1 then s.readBlockEntry
  else if c == '?' && (s.inFlow || source.whiteOrEndAt 1) then s.readKey
  else if c == ':' && (s.inFlow || source.whiteOrEndAt 1) then s.readValue
  else if c == '*' then s.readAnchor .alias
  else if c == '&' then s.readAnchor .anchor
  else if c == '!' then s.readTag
  else if c == '|' && !s.inFlow then s.readBlockScalar true
  else if c == '>' && !s.inFlow then s.readBlockScalar false
  else if c == '\x27' then s.readQuoted true
  else if c == '"' then s.readQuoted false
  else if startsPlain s.inFlow c source then s.readPlain
  else .error .unexpectedCharacter

def readToken (s : Lexer) : Except Fault Lexer := do
  let s ← (s.skipGap (s.source.rest.length + 1)).forgetFarKeys
  let s := s.endBlocks s.column
  match s.source.rest with
  | [] => s.readEnd
  | c :: _ => s.readAt c

/-- How many tokens are known not to be preceded by the token of a key. -/
def settled (s : Lexer) : Nat :=
  (s.keys.filterMap (·.map (·.number))).foldl min s.tokens.length

def run (s : Lexer) : Nat → List Token × Option Fault
  | 0 => (s.tokens, none)
  | fuel + 1 =>
    if s.ended then (s.tokens, none)
    else
      match s.readToken.bind forgetFarKeys with
      | .ok s => run s fuel
      | .error fault => (s.tokens.take s.settled, some fault)

end Lexer

def lex (cs : List Char) : List Token × Option Fault :=
  if !cs.all isAllowed then ([.streamStart], some .controlCharacter)
  else (Lexer.start (.ofChars cs)).run (cs.length + 2)

end VaultRing.Yaml
