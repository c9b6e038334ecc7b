import VaultRing.Url.Percent

namespace VaultRing.Url

abbrev Segment := List Char

/-- Two dots drop the segment before them, one dot nothing; both leave an empty segment when they
end the path. -/
inductive SegmentKind where
  | plain
  | same
  | parent
deriving DecidableEq

def isDot (s : Segment) : Bool := s == ['.'] || s == ['%', '2', 'e'] || s == ['%', '2', 'E']

def isTwoDots (s : Segment) : Bool :=
  (s.take 1 == ['.'] && isDot (s.drop 1)) || (isDot (s.take 3) && isDot (s.drop 3))

def segmentKind (s : Segment) : SegmentKind :=
  if isTwoDots s then .parent else if isDot s then .same else .plain

/-- A letter and a colon or bar; no dots drop such a segment. -/
def isDriveLetter : Segment → Bool
  | [a, b] => a.isAlpha && (b == ':' || b == '|')
  | _ => false

def toParent : List Segment → List Segment
  | [] => []
  | s :: done => if isDriveLetter s then s :: done else done

/-- Adds encoded segments to those in `done`, which are in reverse. -/
def walk (done : List Segment) : List Segment → List Segment
  | [] => [] :: done
  | [s] =>
    match segmentKind s with
    | .plain => s :: done
    | .same => [] :: done
    | .parent => [] :: toParent done
  | s :: rest =>
    match segmentKind s with
    | .plain => walk (s :: done) rest
    | .same => walk done rest
    | .parent => walk (toParent done) rest

def isLineBreakOrTab (c : Char) : Bool := c == '\t' || c == '\n' || c == '\r'

/-- Splits at every slash and backslash. -/
def splitSegments : List Char → List Segment
  | [] => [[]]
  | c :: rest =>
    if c = '/' ∨ c = '\\' then [] :: splitSegments rest
    else
      match splitSegments rest with
      | s :: segments => (c :: s) :: segments
      | [] => [[c]]

def pathOf (cs : List Char) : List Segment :=
  let cs := match cs with
    | '/' :: rest | '\\' :: rest => rest
    | cs => cs
  (walk [] ((splitSegments cs).map Part.path.encode)).reverse

/-- Without the empty segment at the end, if it is not the only one. -/
def dropEmptyEnd (path : List Segment) : List Segment :=
  match path.reverse with
  | [] :: s :: done => (s :: done).reverse
  | _ => path

/-- Adds one segment, given literally. The names `.` and `..` are passed over. -/
def pushSegment (path : List Segment) (name : String) : List Segment :=
  let cs := name.toList
  if cs = ['.'] ∨ cs = ['.', '.'] then path
  else
    let done := if path = [[]] then [] else path.reverse
    (walk done [Part.segment.encode (cs.filter (!isLineBreakOrTab ·))]).reverse

def pathText (path : List Segment) : List Char := path.flatMap ('/' :: ·)

end VaultRing.Url
