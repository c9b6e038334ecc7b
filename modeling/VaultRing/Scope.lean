import VaultRing.Error
import VaultRing.Payload
import VaultRing.Vault.Item

namespace VaultRing

structure Scope where
  vaultId : String
  titlePrefix : String
  tag : String
  fieldTitle : String
deriving DecidableEq

/-- A managed item, with its one concealed field. -/
structure ManagedItem where
  id : String
  title : String
  vaultId : String
  tags : List String
  field : Field
  updatedAt : Option Timestamp
deriving DecidableEq

def ManagedItem.toVaultItem (m : ManagedItem) : VaultItem where
  id := m.id
  title := m.title
  category := .apiCredential
  vaultId := m.vaultId
  tags := m.tags
  fields := [m.field]
  state := .active
  updatedAt := m.updatedAt

namespace Scope

def separator : String := ": "

def encodeTitle (scope : Scope) (key : String) : String := scope.titlePrefix ++ separator ++ key

/-- A title without the prefix stands for itself. -/
def decodeTitle (scope : Scope) (title : String) : String :=
  let key? := (scope.titlePrefix.toList.isPrefixOf? title.toList).bind fun rest =>
    separator.toList.isPrefixOf? rest
  match key? with
  | some key => String.ofList key
  | none => title

/-- What a listing already tells. -/
def isCandidate (scope : Scope) (tags : List String) (category : Category) (state : ItemState) :
    Bool :=
  state == .active && category == .apiCredential && tags.contains scope.tag

def managed? (scope : Scope) (item : VaultItem) : Option ManagedItem :=
  if !scope.isCandidate item.tags item.category item.state then none
  else
    match item.fields.filter (·.type == .concealed) with
    | [field] =>
      if field.title == scope.fieldTitle then
        some ⟨item.id, item.title, item.vaultId, item.tags, field, item.updatedAt⟩
      else none
    | _ => none

def findByKey (scope : Scope) (items : List ManagedItem) (key : String) :
    Except KeyringError ManagedItem :=
  let title := scope.encodeTitle key
  match items.filter (·.title == title) with
  | [] => .error .keyNotFound
  | [item] => .ok item
  | found => .error (.ambiguous found.length title scope.vaultId)

/-- The titles in the order in which they are first seen, and those of them that are seen again, in
the order in which they are. -/
def collectTitles (seen repeated : List String) : List String → List String × List String
  | [] => (seen, repeated)
  | title :: titles =>
    if seen.contains title then
      collectTitles seen
        (if repeated.contains title then repeated else repeated ++ [title]) titles
    else collectTitles (seen ++ [title]) repeated titles

def listKeys (scope : Scope) (items : List ManagedItem) : Except KeyringError (List String) :=
  let (seen, repeated) := collectTitles [] [] (items.map (·.title))
  if repeated.isEmpty then .ok (seen.map scope.decodeTitle)
  else .error (.duplicateTitles repeated scope.vaultId)

def shown (scope : Scope) : String :=
  Text.record "ItemScope"
    [("vault_id", Text.quoted scope.vaultId),
      ("title_prefix", Text.quoted scope.titlePrefix),
      ("tag", Text.quoted scope.tag),
      ("field_title", Text.quoted scope.fieldTitle)]

end Scope

end VaultRing
