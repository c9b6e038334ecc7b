import VaultRing.Json.Record
import VaultRing.Json.Value
import VaultRing.Timestamp.Reading
import VaultRing.Vault.Item

namespace VaultRing

structure GatewayField where
  id : String
  type : FieldType
  label : String
  value : String
deriving DecidableEq

structure GatewayItem where
  id : String
  title : String
  vaultId : String
  category : Category
  tags : List String
  fields : List GatewayField
  /-- Absent for active items. -/
  state : Option ItemState
  updatedAt : Option Timestamp
deriving DecidableEq

namespace GatewayField

def empty : GatewayField := ⟨"", .unknown, "", ""⟩

def toField (f : GatewayField) : Field := ⟨f.id, f.label, f.type, f.value⟩

def ofField (f : Field) : GatewayField := ⟨f.id, f.type, f.title, f.value⟩

def json (f : GatewayField) : Json.Value :=
  .object <|
    (if f.id.isEmpty then [] else [("id", .string f.id)]) ++
      [("type", .string f.type.name), ("label", .string f.label), ("value", .string f.value)]

end GatewayField

namespace GatewayItem

def empty : GatewayItem := ⟨"", "", "", .unsupported, [], [], none, none⟩

def toVaultItem (item : GatewayItem) : VaultItem :=
  { item with fields := item.fields.map GatewayField.toField, state := item.state.getD .active }

def ofVaultItem (item : VaultItem) : GatewayItem :=
  { item with
    fields := item.fields.map GatewayField.ofField
    state := if item.state = .active then none else some item.state }

def overview (item : GatewayItem) : GatewayItem := { item with fields := [] }

def json (item : GatewayItem) : Json.Value :=
  .object <|
    (if item.id.isEmpty then [] else [("id", .string item.id)]) ++
      [("title", .string item.title),
        ("vault", .object [("id", .string item.vaultId)]),
        ("category", .string item.category.name),
        ("tags", .strings item.tags)] ++
      (if item.fields.isEmpty then [] else [("fields", .array (item.fields.map (·.json)))]) ++
      (item.state.map fun s => ("state", Json.Value.string s.name)).toList ++
      (item.updatedAt.map fun t => ("updatedAt", Json.Value.string t.text)).toList

end GatewayItem

namespace Category

def reader : Json.Reader Category := .variant (.ok ∘ ofName)

end Category

namespace FieldType

def reader : Json.Reader FieldType := .variant (.ok ∘ ofName)

end FieldType

namespace ItemState

def reader : Json.Reader ItemState := .variant (.ok ∘ ofName)

end ItemState

namespace Timestamp

def reader : Json.Reader Timestamp :=
  .string "an RFC 3339 formatted date and time string" fun s =>
    (ofText s).mapError fun fault => .contents fault.message

end Timestamp

namespace GatewayField

def format : Json.Record GatewayField GatewayField where
  expected := "struct ConnectField"
  members :=
    [⟨"id", fun f => return { f with id := ← .text }⟩,
      ⟨"type", fun f => return { f with type := ← FieldType.reader }⟩,
      ⟨"label", fun f => return { f with label := ← .text }⟩,
      ⟨"value", fun f => return { f with value := ← .text }⟩]
  start := empty
  finish _ f := .ok f

end GatewayField

namespace GatewayItem

def vaultFormat : Json.Record String String where
  expected := "struct ConnectVault"
  members := [⟨"id", fun _ => .text⟩]
  start := ""
  finish _ id := .ok id

def listOrNull {α : Type} (item : Json.Reader α) : Json.Reader (List α) :=
  (·.getD []) <$> Json.Reader.optional (.listOf item)

def format : Json.Record GatewayItem GatewayItem where
  expected := "struct ConnectItem"
  members :=
    [⟨"id", fun item => return { item with id := ← .text }⟩,
      ⟨"title", fun item => return { item with title := ← .text }⟩,
      ⟨"vault", fun item => return { item with vaultId := ← vaultFormat.read }⟩,
      ⟨"category", fun item => return { item with category := ← Category.reader }⟩,
      ⟨"tags", fun item => return { item with tags := ← listOrNull .text }⟩,
      ⟨"fields", fun item => return { item with fields := ← listOrNull GatewayField.format.read }⟩,
      ⟨"state", fun item => return { item with state := ← .optional ItemState.reader }⟩,
      ⟨"updatedAt", fun item => return { item with updatedAt := ← .optional Timestamp.reader }⟩]
  start := empty
  finish _ item := .ok item

def ofText (s : String) : Except Json.Error GatewayItem := format.read.run s

def listOfText (s : String) : Except Json.Error (List GatewayItem) :=
  (Json.Reader.listOf format.read).run s

end GatewayItem

end VaultRing
