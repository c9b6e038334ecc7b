import VaultRing.Yaml.Token.Lexer

namespace VaultRing.Yaml

structure Scalar where
  text : List Char
  style : ScalarStyle
  /-- Written out in full; empty if there is none. -/
  tag : Bytes
deriving DecidableEq

inductive Event where
  | documentStart
  | documentEnd
  | streamEnd
  | alias (name : List Char)
  | scalar (anchor : Option (List Char)) (s : Scalar)
  | sequenceStart (anchor : Option (List Char))
  | sequenceEnd
  | mappingStart (anchor : Option (List Char))
  | mappingEnd
deriving DecidableEq

inductive Expectation where
  | document (implicit : Bool)
  | documentContent
  | documentEnd
  | node
  | sequenceEntry
  | unindentedEntry
  | mappingKey
  | mappingValue
  | flowEntry (first : Bool)
  /-- The parts of a mapping with one pair within a flow sequence. -/
  | pairKey
  | pairValue
  | pairEnd
  | flowKey (first : Bool)
  | flowValue
  | flowNoValue
  | nothing
deriving DecidableEq

structure EventState where
  expected : Expectation
  /-- What is expected after the open collections, the innermost first. -/
  later : List Expectation
  handles : List (List Char × Bytes)
  tokens : List Token

namespace EventState

def start (tokens : List Token) : EventState := ⟨.document true, [], [], tokens⟩

abbrev Step := Except Fault (Event × EventState)

def emptyScalar : Event := .scalar none ⟨[], .plain, []⟩

def skip (s : EventState) : EventState := { s with tokens := s.tokens.drop 1 }

def expect (s : EventState) (e : Expectation) : EventState := { s with expected := e }

/-- Goes on with what comes after this node. -/
def pop (s : EventState) : EventState :=
  match s.later with
  | [] => { s with expected := .nothing }
  | e :: later => { s with expected := e, later }

def pushLater (s : EventState) (e : Expectation) : EventState := { s with later := e :: s.later }

def defaultHandles : List (List Char × Bytes) :=
  [(['!'], textBytes "!"), (['!', '!'], textBytes "tag:yaml.org,2002:")]

def isVersion (major minor : Nat) : Bool := major == 1 && (minor == 1 || minor == 2)

/-- The directives before a document; at most one version, and each handle once. -/
def directives (version : Bool) (handles : List (List Char × Bytes)) :
    List Token → Except Fault (List (List Char × Bytes) × List Token)
  | .version major minor :: tokens =>
    if version || !isVersion major minor then .error .badDirective
    else directives true handles tokens
  | .tagHandle h stem :: tokens =>
    if handles.any (·.1 == h) then .error .badDirective
    else directives version (handles ++ [(h, stem)]) tokens
  | tokens => .ok (handles ++ defaultHandles, tokens)

def resolveTag (s : EventState) : Option (List Char × Bytes) → Except Fault Bytes
  | none => .ok []
  | some ([], suffix) => .ok suffix
  | some (h, suffix) =>
    match s.handles.find? (·.1 == h) with
    | some (_, stem) => .ok (stem ++ suffix)
    | none => .error .badTag

def properties : List Token → Option (List Char) × Option (List Char × Bytes) × List Token
  | .anchor a :: .tag h x :: tokens => (some a, some (h, x), tokens)
  | .tag h x :: .anchor a :: tokens => (some a, some (h, x), tokens)
  | .anchor a :: tokens => (some a, none, tokens)
  | .tag h x :: tokens => (none, some (h, x), tokens)
  | tokens => (none, none, tokens)

/-- The first event of a node. A sequence as the value of a mapping need not be indented. -/
def node (block unindented : Bool) (s : EventState) : Step :=
  match s.tokens with
  | .alias name :: _ => .ok (.alias name, s.skip.pop)
  | _ =>
    let (anchor, tag?, tokens) := properties s.tokens
    (s.resolveTag tag?).bind fun tag =>
      let s := { s with tokens }
      match tokens with
      | [] => .error .unfinished
      | .blockEntry :: _ =>
        if unindented then .ok (.sequenceStart anchor, s.expect .unindentedEntry)
        else absent anchor tag tag?.isSome s
      | .scalar text style :: _ => .ok (.scalar anchor ⟨text, style, tag⟩, s.skip.pop)
      | .flowSequenceStart :: _ => .ok (.sequenceStart anchor, s.skip.expect (.flowEntry true))
      | .flowMappingStart :: _ => .ok (.mappingStart anchor, s.skip.expect (.flowKey true))
      | .blockSequenceStart :: _ =>
        if block then .ok (.sequenceStart anchor, s.skip.expect .sequenceEntry)
        else absent anchor tag tag?.isSome s
      | .blockMappingStart :: _ =>
        if block then .ok (.mappingStart anchor, s.skip.expect .mappingKey)
        else absent anchor tag tag?.isSome s
      | _ => absent anchor tag tag?.isSome s
where
  absent (anchor : Option (List Char)) (tag : Bytes) (tagged : Bool) (s : EventState) : Step :=
    if anchor.isSome || tagged then .ok (.scalar anchor ⟨[], .plain, tag⟩, s.pop)
    else .error .nodeExpected

def dropDocumentEnds : List Token → List Token
  | .documentEnd :: tokens => dropDocumentEnds tokens
  | tokens => tokens

def explicitDocument (s : EventState) (tokens : List Token) : Step :=
  (directives false [] tokens).bind fun (handles, tokens) =>
    match tokens with
    | .documentStart :: tokens =>
      .ok (.documentStart, ⟨.documentContent, .documentEnd :: s.later, handles, tokens⟩)
    | [] => .error .unfinished
    | _ => .error .documentStartExpected

def document (implicit : Bool) (s : EventState) : Step :=
  let tokens := if implicit then s.tokens else dropDocumentEnds s.tokens
  match tokens with
  | [] => .error .unfinished
  | .streamEnd :: rest => .ok (.streamEnd, { s with expected := .nothing, tokens := rest })
  | .version .. :: _ | .tagHandle .. :: _ | .documentStart :: _ => s.explicitDocument tokens
  | _ =>
    if implicit then
      .ok (.documentStart, ⟨.node, .documentEnd :: s.later, defaultHandles, tokens⟩)
    else .error .documentStartExpected

def documentContent (s : EventState) : Step :=
  match s.tokens with
  | [] => .error .unfinished
  | .version .. :: _ | .tagHandle .. :: _ | .documentStart :: _ | .documentEnd :: _
  | .streamEnd :: _ => .ok (emptyScalar, s.pop)
  | _ => s.node true false

def documentEnd (s : EventState) : Step :=
  match s.tokens with
  | [] => .error .unfinished
  | .documentEnd :: tokens =>
    .ok (.documentEnd, { s with expected := .document false, handles := [], tokens })
  | _ => .ok (.documentEnd, { s with expected := .document false, handles := [] })

def sequenceEntry (s : EventState) : Step :=
  match s.tokens with
  | .blockEntry :: tokens =>
    match tokens with
    | [] => .error .unfinished
    | .blockEntry :: _ | .blockEnd :: _ => .ok (emptyScalar, s.skip.expect .sequenceEntry)
    | _ => (s.skip.pushLater .sequenceEntry).node true false
  | .blockEnd :: _ => .ok (.sequenceEnd, s.skip.pop)
  | [] => .error .unfinished
  | _ => .error .separatorExpected

def unindentedEntry (s : EventState) : Step :=
  match s.tokens with
  | .blockEntry :: tokens =>
    match tokens with
    | [] => .error .unfinished
    | .blockEntry :: _ | .key :: _ | .value :: _ | .blockEnd :: _ =>
      .ok (emptyScalar, s.skip.expect .unindentedEntry)
    | _ => (s.skip.pushLater .unindentedEntry).node true false
  | [] => .error .unfinished
  | _ => .ok (.sequenceEnd, s.pop)

/-- A node of a block mapping, which may be left out. -/
def mappingNode (s : EventState) (next : Expectation) : Step :=
  match s.tokens with
  | [] => .error .unfinished
  | .key :: _ | .value :: _ | .blockEnd :: _ => .ok (emptyScalar, s.expect next)
  | _ => (s.pushLater next).node true true

def mappingKey (s : EventState) : Step :=
  match s.tokens with
  | .key :: _ => s.skip.mappingNode .mappingValue
  | .blockEnd :: _ => .ok (.mappingEnd, s.skip.pop)
  | [] => .error .unfinished
  | _ => .error .keyExpected

def mappingValue (s : EventState) : Step :=
  match s.tokens with
  | .value :: _ => s.skip.mappingNode .mappingKey
  | [] => .error .unfinished
  | _ => .ok (emptyScalar, s.expect .mappingKey)

def separator (first : Bool) (s : EventState) : Except Fault EventState :=
  if first then .ok s
  else
    match s.tokens with
    | .flowEntry :: _ => .ok s.skip
    | [] => .error .unfinished
    | _ => .error .separatorExpected

def flowEntry (first : Bool) (s : EventState) : Step :=
  match s.tokens with
  | .flowSequenceEnd :: _ => .ok (.sequenceEnd, s.skip.pop)
  | _ =>
    (s.separator first).bind fun s =>
      match s.tokens with
      | [] => .error .unfinished
      | .key :: _ => .ok (.mappingStart none, s.skip.expect .pairKey)
      | .flowSequenceEnd :: _ => .ok (.sequenceEnd, s.skip.pop)
      | _ => (s.pushLater (.flowEntry false)).node false false

/-- Where the key of a pair is missing, the token in its place is passed over. -/
def pairKey (s : EventState) : Step :=
  match s.tokens with
  | [] => .error .unfinished
  | .value :: _ | .flowEntry :: _ | .flowSequenceEnd :: _ =>
    .ok (emptyScalar, s.skip.expect .pairValue)
  | _ => (s.pushLater .pairValue).node false false

def pairValue (s : EventState) : Step :=
  match s.tokens with
  | .value :: tokens =>
    match tokens with
    | [] => .error .unfinished
    | .flowEntry :: _ | .flowSequenceEnd :: _ => .ok (emptyScalar, s.skip.expect .pairEnd)
    | _ => (s.skip.pushLater .pairEnd).node false false
  | [] => .error .unfinished
  | _ => .ok (emptyScalar, s.expect .pairEnd)

def flowNode (s : EventState) (next : Expectation) : Step :=
  match s.tokens with
  | [] => .error .unfinished
  | .flowEntry :: _ | .flowMappingEnd :: _ => .ok (emptyScalar, s.expect next)
  | .value :: _ =>
    if next = .flowValue then .ok (emptyScalar, s.expect next)
    else (s.pushLater next).node false false
  | _ => (s.pushLater next).node false false

def flowKey (first : Bool) (s : EventState) : Step :=
  match s.tokens with
  | .flowMappingEnd :: _ => .ok (.mappingEnd, s.skip.pop)
  | _ =>
    (s.separator first).bind fun s =>
      match s.tokens with
      | [] => .error .unfinished
      | .key :: _ => s.skip.flowNode .flowValue
      | .flowMappingEnd :: _ => .ok (.mappingEnd, s.skip.pop)
      | _ => (s.pushLater .flowNoValue).node false false

def flowValue (s : EventState) : Step :=
  match s.tokens with
  | .value :: _ => s.skip.flowNode (.flowKey false)
  | [] => .error .unfinished
  | _ => .ok (emptyScalar, s.expect (.flowKey false))

def step (s : EventState) : Step :=
  match s.expected with
  | .document implicit => s.document implicit
  | .documentContent => s.documentContent
  | .documentEnd => s.documentEnd
  | .node => s.node true false
  | .sequenceEntry => s.sequenceEntry
  | .unindentedEntry => s.unindentedEntry
  | .mappingKey => s.mappingKey
  | .mappingValue => s.mappingValue
  | .flowEntry first => s.flowEntry first
  | .pairKey => s.pairKey
  | .pairValue => s.pairValue
  | .pairEnd =>
    if s.tokens.isEmpty then .error .unfinished
    else .ok (.mappingEnd, s.expect (.flowEntry false))
  | .flowKey first => s.flowKey first
  | .flowValue => s.flowValue
  | .flowNoValue =>
    if s.tokens.isEmpty then .error .unfinished
    else .ok (emptyScalar, s.expect (.flowKey false))
  | .nothing => .error .unfinished

def run (s : EventState) : Nat → List Event × Option Fault
  | 0 => ([], some .unfinished)
  | fuel + 1 =>
    match s.step with
    | .error fault => ([], some fault)
    | .ok (.streamEnd, _) => ([.streamEnd], none)
    | .ok (event, s) =>
      let (events, fault) := run s fuel
      (event :: events, fault)

end EventState

/-- The events of a text. A token gives at most four. -/
def events (cs : List Char) : List Event × Option Fault :=
  let (tokens, _) := lex cs
  (EventState.start (tokens.drop 1)).run (4 * tokens.length + 4)

end VaultRing.Yaml
