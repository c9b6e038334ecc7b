import VaultRing.Item
import VaultRing.Json.Record
import VaultRing.Json.Value

namespace VaultRing.Payload

def write (item : Item) : String :=
  (Json.Value.object
    [("Key", .string item.key),
      ("Data", .string (String.ofList (Base64.encode item.data)))]).text

/-- The members read so far. -/
structure Parts where
  key : Option String
  data : Bytes

def dataReader : Json.Reader Bytes := do
  match ← Json.Reader.optional .text with
  | none => return []
  | some s =>
    match Base64.decode (textBytes s) with
    | .ok data => return data
    | .error fault => Json.Record.failRecord (.contents fault.message)

def finish (form : Json.Form) (parts : Parts) : Except Json.Cause Item :=
  match parts.key, form with
  | some key, _ => .ok ⟨key, parts.data⟩
  | none, .object => .error (.missingMember "Key")
  | none, .list => .error (.tooShort 0 "struct FieldPayload with 2 elements")

def format : Json.Record Parts Item where
  expected := "struct FieldPayload"
  members :=
    [⟨"Key", fun parts => return { parts with key := some (← .text) }⟩,
      ⟨"Data", fun parts => return { parts with data := ← dataReader }⟩]
  start := ⟨none, []⟩
  finish := finish

def read (s : String) : Except Json.Error Item := format.read.run s

end VaultRing.Payload
