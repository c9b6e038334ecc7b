import Mathlib.Data.List.Basic
import VaultRing.Proofs.ManagedItems
import VaultRing.Vault.Memory

/-!
Items without the values of their fields, and without the time at which they were written. Nothing
hangs on these but what is told as a value or a time: which items are managed, found, stored,
replaced or removed is seen on masked items as well.
-/
namespace VaultRing

def Field.masked (f : Field) : Field := { f with value := "" }

def VaultItem.masked (i : VaultItem) : VaultItem :=
  { i with fields := i.fields.map Field.masked, updatedAt := none }

def ManagedItem.masked (m : ManagedItem) : ManagedItem :=
  { m with field := m.field.masked, updatedAt := none }

def Overview.untimed (o : Overview) : Overview := { o with updatedAt := none }

def GatewayItem.untimed (i : GatewayItem) : GatewayItem := { i with updatedAt := none }

def MemoryVault.masked (v : MemoryVault) : MemoryVault :=
  { v with items := v.items.map VaultItem.masked }

section Managed

variable {scope : Scope}

theorem Scope.managed?_masked (scope : Scope) (i : VaultItem) :
    scope.managed? i.masked = (scope.managed? i).map ManagedItem.masked := by
  have hconcealed : i.masked.fields.filter (·.type == .concealed) =
      (i.fields.filter (·.type == .concealed)).map Field.masked := by
    rw [VaultItem.masked, List.filter_map]
    rfl
  unfold Scope.managed?
  rw [hconcealed]
  change (if !scope.isCandidate i.tags i.category i.state then _ else _) = _
  split
  · rfl
  generalize i.fields.filter (·.type == .concealed) = concealed
  match concealed with
  | [] => rfl
  | [f] =>
    change (if f.title == scope.fieldTitle then _ else _) =
      (if f.title == scope.fieldTitle then _ else _ : Option ManagedItem).map _
    split <;> rfl
  | f :: g :: rest => rfl

theorem Scope.findByKey_masked (scope : Scope) (items : List ManagedItem) (key : String) :
    scope.findByKey (items.map ManagedItem.masked) key =
      (scope.findByKey items key).map ManagedItem.masked := by
  have htitled : (items.map ManagedItem.masked).filter (·.title == scope.encodeTitle key) =
      (items.filter (·.title == scope.encodeTitle key)).map ManagedItem.masked := by
    rw [List.filter_map]
    rfl
  unfold Scope.findByKey
  dsimp only
  rw [htitled]
  generalize items.filter (·.title == scope.encodeTitle key) = found
  match found with
  | [] => rfl
  | [m] => rfl
  | m :: n :: rest => simp [Except.map]

theorem Scope.listKeys_masked (scope : Scope) (items : List ManagedItem) :
    scope.listKeys (items.map ManagedItem.masked) = scope.listKeys items := by
  have htitles : (items.map ManagedItem.masked).map (·.title) = items.map (·.title) := by
    rw [List.map_map]
    rfl
  unfold Scope.listKeys
  rw [htitles]

end Managed

namespace MemoryVault

variable (v : MemoryVault)

theorem overviews_masked (vaultId : String) (filter : ListFilter) :
    v.masked.overviews vaultId filter = (v.overviews vaultId filter).map Overview.untimed := by
  unfold overviews masked
  rw [List.filter_map, List.map_map, List.map_map]
  rfl

theorem gatewayOverviews_masked (vaultId : String) (title : Option String) :
    v.masked.gatewayOverviews vaultId title =
      (v.gatewayOverviews vaultId title).map GatewayItem.untimed := by
  unfold gatewayOverviews masked
  rw [List.filter_map, List.map_map, List.map_map]
  rfl

theorem find_masked (vaultId itemId : String) :
    v.masked.find vaultId itemId = (v.find vaultId itemId).map VaultItem.masked := by
  have hplace : isAt vaultId itemId ∘ VaultItem.masked = isAt vaultId itemId := rfl
  unfold find masked
  rw [List.find?_map, hplace]
  cases v.items.find? (isAt vaultId itemId) <;> rfl

theorem withFieldIds_masked (drawn : Nat) (fields : List Field) :
    withFieldIds drawn (fields.map Field.masked) =
      ((withFieldIds drawn fields).1.map Field.masked, (withFieldIds drawn fields).2) := by
  induction fields generalizing drawn with
  | nil => rfl
  | cons f fields ih =>
    simp only [List.map_cons, withFieldIds]
    change (if f.id.isEmpty then _ else _) = _
    split
    · rw [ih]
      rfl
    · rw [ih]
      rfl

theorem fields_masked_twice (fields : List Field) :
    (fields.map Field.masked).map Field.masked = fields.map Field.masked := by
  rw [List.map_map]
  rfl

theorem items_masked_twice (items : List VaultItem) :
    (items.map VaultItem.masked).map VaultItem.masked = items.map VaultItem.masked := by
  rw [List.map_map]
  refine List.map_congr_left fun i _ => ?_
  simp only [Function.comp_apply, VaultItem.masked, fields_masked_twice]

theorem store_masked (now now' : Timestamp) (item : VaultItem) :
    (v.masked.store now item.masked).2.masked = (v.store now' item).2.masked := by
  have hids : withFieldIds (v.drawn + 1) item.masked.fields = _ :=
    withFieldIds_masked (v.drawn + 1) item.fields
  unfold store masked
  simp only [hids, List.map_append, items_masked_twice, List.map_cons, List.map_nil]
  simp only [VaultItem.masked, fields_masked_twice]

theorem replaceFirst_masked (item : VaultItem) (items : List VaultItem) :
    replaceFirst item.masked (items.map VaultItem.masked) =
      (replaceFirst item items).map (List.map VaultItem.masked) := by
  induction items with
  | nil => rfl
  | cons i items ih =>
    rw [List.map_cons, replaceFirst, replaceFirst, ih]
    change (if isAt item.vaultId item.id i then _ else _) = _
    split
    · rfl
    · rw [Option.map_map, Option.map_map]
      rfl

theorem replace_masked (item : VaultItem) :
    v.masked.replace item.masked =
      ((v.replace item).1.map VaultItem.masked, (v.replace item).2.masked) := by
  have hids := withFieldIds_masked v.drawn item.fields
  unfold replace
  generalize withFieldIds v.drawn item.fields = withIds at hids ⊢
  have hfirst := replaceFirst_masked { item with fields := withIds.1 } v.items
  simp only [masked, VaultItem.masked, hids] at hfirst ⊢
  rw [hfirst]
  cases replaceFirst { item with fields := withIds.1 } v.items <;> rfl

theorem take_masked (vaultId itemId : String) :
    v.masked.take vaultId itemId =
      ((v.take vaultId itemId).1, (v.take vaultId itemId).2.masked) := by
  unfold take masked
  rw [List.any_map, List.filter_map]
  change (if v.items.any (isAt vaultId itemId) then _ else _) = _
  split <;> rfl

theorem enter_masked (kind : CallKind) (limit : Option Duration) :
    v.masked.enter kind limit = ((v.enter kind limit).1, (v.enter kind limit).2.masked) := by
  obtain ⟨items, drawn, calls, delay, failure⟩ := v
  unfold enter
  change (if isLate ⟨items, drawn, calls, delay, failure⟩ limit then _ else _) = _
  split
  · rfl
  · cases failure <;> rfl

end MemoryVault

end VaultRing
