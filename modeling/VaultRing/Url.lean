import VaultRing.Url.Form
import VaultRing.Url.Host
import VaultRing.Url.Path

namespace VaultRing

inductive Url.Scheme where
  | http
  | https
deriving DecidableEq

structure Url where
  scheme : Url.Scheme
  username : List Char
  password : Option (List Char)
  host : Url.Host
  /-- Absent if it is the one of the scheme. -/
  port : Option Nat
  path : List Url.Segment
  query : Option (List Char)
  fragment : Option (List Char)
deriving DecidableEq

namespace Url

def Scheme.name : Scheme → List Char
  | .http => ['h', 't', 't', 'p']
  | .https => ['h', 't', 't', 'p', 's']

def Scheme.port : Scheme → Nat
  | .http => 80
  | .https => 443

def isSlash (c : Char) : Bool := c == '/' || c == '\\'

def endsAuthority (c : Char) : Bool := isSlash c || c == '?' || c == '#'

def isEdge (c : Char) : Bool := c.toNat ≤ 32

/-- Without controls and blanks at the ends, and without line breaks and tabs. -/
def cleaned (cs : List Char) : List Char :=
  (((cs.dropWhile isEdge).reverse.dropWhile isEdge).reverse).filter (!isLineBreakOrTab ·)

def scheme? (cs : List Char) : Option (Scheme × List Char) :=
  match cs.dropWhile (· ≠ ':') with
  | ':' :: rest =>
    let name := (cs.takeWhile (· ≠ ':')).map Char.toLower
    ([Scheme.http, Scheme.https].find? (·.name == name)).map (·, rest)
  | _ => none

/-- Splits at the last `@`. -/
def splitUserinfo (cs : List Char) : List Char × List Char :=
  if cs.contains '@' then
    let host := (cs.reverse.takeWhile (· ≠ '@')).reverse
    (cs.take (cs.length - host.length - 1), host)
  else ([], cs)

/-- Splits before the colon that is not within brackets. -/
def splitPort (bracketed : Bool) : List Char → List Char × List Char
  | [] => ([], [])
  | c :: rest =>
    if c = ':' ∧ !bracketed then ([], c :: rest)
    else
      let (host, port) :=
        splitPort (if c = '[' then true else if c = ']' then false else bracketed) rest
      (c :: host, port)

def port? (scheme : Scheme) (cs : List Char) : Option (Option Nat) :=
  match cs.drop 1 with
  | [] => some none
  | ds =>
    if ds.all Char.isDigit then
      let n := Text.decimal ds
      if 65535 < n then none else some (if n = scheme.port then none else some n)
    else none

def password? (userinfo : List Char) : Option (List Char) :=
  match (userinfo.dropWhile (· ≠ ':')).drop 1 with
  | [] => none
  | password => some (Part.userinfo.encode password)

def after? (mark : Char) (cs : List Char) : Option (List Char) :=
  match cs.dropWhile (· ≠ mark) with
  | [] => none
  | _ :: rest => some rest

def ofChars? (cs : List Char) : Option Url := do
  let (scheme, rest) ← scheme? (cleaned cs)
  let rest := rest.dropWhile isSlash
  let (userinfo, server) := splitUserinfo (rest.takeWhile (!endsAuthority ·))
  let (host, port) := splitPort false server
  let host ← if host.isEmpty then none else Host.ofChars? host
  let port ← port? scheme port
  let rest := rest.dropWhile (!endsAuthority ·)
  let beforeFragment := rest.takeWhile (· ≠ '#')
  return {
    scheme, host, port
    username := Part.userinfo.encode (userinfo.takeWhile (· ≠ ':'))
    password := password? userinfo
    path := pathOf (beforeFragment.takeWhile (· ≠ '?'))
    query := (after? '?' beforeFragment).map Part.query.encode
    fragment := (after? '#' rest).map Part.fragment.encode }

def userinfoText (u : Url) : List Char :=
  match u.password with
  | none => if u.username.isEmpty then [] else u.username ++ ['@']
  | some password => u.username ++ ':' :: password ++ ['@']

def portText (u : Url) : List Char :=
  match u.port with
  | none => []
  | some n => ':' :: Nat.toDigits 10 n

def marked (mark : Char) : Option (List Char) → List Char
  | none => []
  | some cs => mark :: cs

def write (u : Url) : List Char :=
  u.scheme.name ++ ':' :: '/' :: '/' :: u.userinfoText ++ u.host.text ++ u.portText ++
    pathText u.path ++ marked '?' u.query ++ marked '#' u.fragment

def text (u : Url) : String := String.ofList u.write

def withoutFragment (u : Url) : Url := { u with fragment := none }

def push (u : Url) (names : List String) : Url :=
  { u with path := names.foldl pushSegment (dropEmptyEnd u.path) }

def withField (u : Url) (name value : String) : Url :=
  { u with query := some (Form.append u.query (Form.pair name value)) }

end Url

end VaultRing
