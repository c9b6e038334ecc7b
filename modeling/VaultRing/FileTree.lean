import VaultRing.Base64
import VaultRing.FilePath

namespace VaultRing

inductive FileEntry where
  | directory
  | file (contents : Bytes)
deriving DecidableEq

inductive FileFault where
  | isDirectory
  | notDirectory
  | notFound
  | badPath
  | nameTooLong
  | notText
deriving DecidableEq

def FileFault.message : FileFault → String
  | .isDirectory => "Is a directory"
  | .notDirectory => "Not a directory"
  | .notFound => "No such file or directory"
  | .badPath => "Invalid argument"
  | .nameTooLong => "File name too long"
  | .notText => "stream did not contain valid UTF-8"

/-- What stands below the top, by place. -/
structure FileTree where
  entries : List (List String × FileEntry)

namespace FileTree

/-- A change of a tree. What has been done before a fault stays done. -/
abbrev Change := ExceptT FileFault (StateM FileTree)

def empty : FileTree := ⟨[]⟩

def nameLimit : Nat := 255

def pathLimit : Nat := 4095

def entry? (t : FileTree) (place : List String) : Option FileEntry :=
  if place.isEmpty then some .directory else (t.entries.find? (·.1 == place)).map (·.2)

def put (t : FileTree) (place : List String) (e : FileEntry) : FileTree :=
  ⟨t.entries.filter (·.1 ≠ place) ++ [(place, e)]⟩

def walk (t : FileTree) (place : List String) : List String → Except FileFault (List String)
  | [] => .ok place
  | name :: below =>
    match t.entry? place with
    | none => .error .notFound
    | some (.file _) => .error .notDirectory
    | some .directory =>
      if name = ".." then walk t place.dropLast below
      else if nameLimit < name.utf8ByteSize then .error .nameTooLong
      else walk t (place ++ [name]) below

def checkPath (path : String) : Except FileFault Unit :=
  if path.toList.contains '\x00' then .error .badPath
  else if pathLimit < path.utf8ByteSize then .error .nameTooLong
  else .ok ()

def place (t : FileTree) (path : String) : Except FileFault (List String) := do
  checkPath path
  t.walk [] (FilePath.names path)

def find (t : FileTree) (path : String) : Except FileFault FileEntry := do
  match t.entry? (← t.place path) with
  | none => .error .notFound
  | some .directory => .ok .directory
  | some e => if FilePath.isOfDirectory path then .error .notDirectory else .ok e

def readText (t : FileTree) (path : String) : Except FileFault String := do
  match ← t.find path with
  | .directory => .error .isDirectory
  | .file contents =>
    match String.fromUTF8? ⟨contents.toArray⟩ with
    | some text => .ok text
    | none => .error .notText

/-- Makes each directory on the way that is not there yet. -/
def makeWay (place : List String) : List String → Change Unit
  | [] => pure ()
  | name :: below => do
    let t ← get
    let next ← t.walk place [name]
    match t.entry? next with
    | some .directory => makeWay next below
    | some (.file _) => throw .notDirectory
    | none =>
      set (t.put next .directory)
      makeWay next below

/-- Makes a directory with those above it. Behind a dot it has to be there. -/
def makeDirectories (path : String) : Change Unit := do
  checkPath path
  if FilePath.endsInDot path then
    makeWay [] (FilePath.names path).dropLast
    discard ((← get).find path)
  else makeWay [] (FilePath.names path)

def write (path : String) (contents : Bytes) : Change Unit := do
  let t ← get
  let place ← t.place path
  if FilePath.isOfDirectory path || t.entry? place = some .directory then throw .isDirectory
  else set (t.put place (.file contents))

end FileTree

end VaultRing
