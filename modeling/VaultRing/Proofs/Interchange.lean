import VaultRing.Proofs.KeyringOutcome
import VaultRing.Proofs.VaultMap

namespace VaultRing

/-- The same item, or one that has been written in both cases, each at its own time. -/
def VaultItem.SameButTime (now now' : Timestamp) (i j : VaultItem) : Prop :=
  i = j ∨ i.updatedAt = some now ∧ j = { i with updatedAt := some now' }

/-- The tags of an item once it has been replaced: a gateway is sent the tag of the scope alone. -/
def Transport.tagsAfter (t : Transport) (scope : Scope) (tags : List String) : List String :=
  match t with
  | .standard .. | .lazy .. => tags
  | .connect _ => [scope.tag]

theorem Transport.writtenTags_eq (t : Transport) (scope : Scope) (m : ManagedItem) :
    t.writtenTags scope m = t.tagsAfter scope m.tags := by
  cases t <;> rfl

def Transport.replaced (t : Transport) (scope : Scope) (itemId : String) (new : VaultItem)
    (now : Timestamp) (items : List VaultItem) : List VaultItem :=
  items.map fun old =>
    if MemoryVault.place old = (scope.vaultId, itemId) then
      { new with tags := t.tagsAfter scope old.tags, updatedAt := some now }
    else old

namespace MemoryVault

variable {v v' : MemoryVault} {scope : Scope} {key : String} {m : ManagedItem}

theorem managedItems_congr (h : v'.items = v.items) (scope : Scope) :
    v'.managedItems scope = v.managedItems scope := by
  unfold managedItems
  rw [h]

theorem lookup_congr (h : v'.items = v.items) (scope : Scope) (key : String) :
    v'.lookup scope key = v.lookup scope key := by
  unfold lookup
  rw [managedItems_congr h]

/-- Writing an item back is writing one item, the same for all transports, but for its tags. -/
theorem rewrite_written (hd : v.Distinct) (hl : v.lookup scope key = .ok m) (t : Transport)
    (now : Timestamp) (value : String) (other : Transport) :
    rewrite (t.written scope v.drawn (m.revalued now value)) v.items =
      t.replaced scope m.id (other.written scope v.drawn (m.revalued now value)) now v.items := by
  unfold rewrite Transport.replaced
  apply List.map_congr_left
  intro i hi
  change (if place i = (scope.vaultId, m.id) then _ else i) = _
  by_cases hp : place i = (scope.vaultId, m.id)
  · have htags : m.tags = i.tags := (Scope.describes_of_own? (own?_of_place hd hl hi hp)).tags
    rw [if_pos hp, if_pos hp, ← htags, ← Transport.writtenTags_eq]
    rfl
  · rw [if_neg hp, if_neg hp]

end MemoryVault

namespace Keyring

section

variable {scope : Scope} {t t' : Transport} {policy policy' : MetadataPolicy} {v v' : MemoryVault}

theorem metadata_congr {found : Except KeyringError ManagedItem} (h : found ≠ .error .keyNotFound) :
    metadata policy found = metadata policy' found := by
  cases found with
  | ok m => rfl
  | error e =>
    have he : e.isNotFound = false := by
      cases e with
      | keyNotFound => exact absurd rfl h
      | _ => rfl
    simp [metadata, he]

theorem answerFrom_congr (hi : v'.items = v.items) {operation : Operation}
    (hfound : ∀ key, operation = .getMetadata key → v.lookup scope key ≠ .error .keyNotFound) :
    answerFrom ⟨scope, t, policy⟩ v operation = answerFrom ⟨scope, t', policy'⟩ v' operation := by
  have hl := MemoryVault.lookup_congr hi scope
  cases operation with
  | get key | has key | set item | remove key => simp only [answerFrom, hl]
  | getMetadata key =>
    simp only [answerFrom, hl]
    rw [metadata_congr (hfound key rfl)]
  | keys => simp only [answerFrom, MemoryVault.managedItems_congr hi scope]

theorem drawnAfter_congr (hi : v'.items = v.items) (hn : v'.drawn = v.drawn)
    (operation : Operation) :
    drawnAfter ⟨scope, t, policy⟩ v operation = drawnAfter ⟨scope, t', policy'⟩ v' operation := by
  have hl := MemoryVault.lookup_congr hi scope
  cases operation with
  | set item => simp only [drawnAfter, hl, hn]
  | get key | has key | getMetadata key | remove key | keys => exact hn.symm

theorem itemsAfter_sameButTime (hi : v'.items = v.items) (hn : v'.drawn = v.drawn)
    {operation : Operation} (now now' : Timestamp)
    (hnew : ∀ item m, operation = .set item → v.lookup scope item.key ≠ .ok m) :
    List.Forall₂ (VaultItem.SameButTime now now') (itemsAfter ⟨scope, t, policy⟩ v now operation)
      (itemsAfter ⟨scope, t', policy'⟩ v' now' operation) := by
  have hl := MemoryVault.lookup_congr hi scope
  have hsame (items : List VaultItem) :
      List.Forall₂ (VaultItem.SameButTime now now') items items :=
    List.forall₂_same.mpr fun i _ => .inl rfl
  cases operation with
  | set item =>
    simp only [itemsAfter, hl, hi, hn]
    cases hfound : v.lookup scope item.key with
    | ok m => exact absurd hfound (hnew item m rfl)
    | error e =>
      cases e with
      | keyNotFound => exact List.rel_append (hsame v.items) (.cons (.inr ⟨rfl, rfl⟩) .nil)
      | _ => exact hsame v.items
  | remove key =>
    simp only [itemsAfter, hl, hi]
    exact hsame _
  | get key | has key | getMetadata key | keys =>
    simp only [itemsAfter, hi]
    exact hsame v.items

theorem itemsAfter_replaced (hd : v.Distinct) {item : Item} {m : ManagedItem}
    (hl : v.lookup scope item.key = .ok m) (now : Timestamp) (other : Transport) :
    itemsAfter ⟨scope, t, policy⟩ v now (.set item) =
      t.replaced scope m.id
        (other.written scope v.drawn (m.revalued now (Payload.write item))) now v.items := by
  simp only [itemsAfter, hl]
  exact MemoryVault.rewrite_written hd hl t now _ other

end

/-- How the same operation goes on two keyrings of one scope, each in a world of its own. -/
structure Agree (scope : Scope) (t t' : Transport) (policy policy' : MetadataPolicy) (w w' : World)
    (operation : Operation) : Prop where
  answer : (∀ key, operation = .getMetadata key → w.vault.lookup scope key ≠ .error .keyNotFound) →
    (Action.run (perform ⟨scope, t, policy⟩ operation) w).1 =
      (Action.run (perform ⟨scope, t', policy'⟩ operation) w').1
  items : (∀ item m, operation = .set item → w.vault.lookup scope item.key ≠ .ok m) →
    List.Forall₂ (VaultItem.SameButTime w.clock w'.clock)
      (Action.run (perform ⟨scope, t, policy⟩ operation) w).2.vault.items
      (Action.run (perform ⟨scope, t', policy'⟩ operation) w').2.vault.items
  replaced : ∀ item m, operation = .set item → w.vault.lookup scope item.key = .ok m →
    ∃ new : VaultItem,
      (Action.run (perform ⟨scope, t, policy⟩ operation) w).2.vault.items =
        t.replaced scope m.id new w.clock w.vault.items ∧
      (Action.run (perform ⟨scope, t', policy'⟩ operation) w').2.vault.items =
        t'.replaced scope m.id new w'.clock w'.vault.items
  drawn : (Action.run (perform ⟨scope, t, policy⟩ operation) w).2.vault.drawn =
    (Action.run (perform ⟨scope, t', policy'⟩ operation) w').2.vault.drawn

/-- On vaults with the same items, keyrings of one scope agree on every operation, whatever their
transports, as long as these get at the vault. -/
theorem transports_interchangeable (scope : Scope) (t t' : Transport)
    (policy policy' : MetadataPolicy) (w w' : World) (hd : w.vault.Distinct)
    (hi : w'.vault.items = w.vault.items) (hn : w'.vault.drawn = w.vault.drawn)
    (ht : t.Undisturbed w.conditions) (ht' : t'.Undisturbed w'.conditions)
    (operation : Operation) : Agree scope t t' policy policy' w w' operation := by
  have hd' : w'.vault.Distinct := by
    unfold MemoryVault.Distinct
    rw [hi]
    exact hd
  have h : HasOutcome ⟨scope, t, policy⟩ w operation := perform_hasOutcome ht.served hd operation
  have h' : HasOutcome ⟨scope, t', policy'⟩ w' operation :=
    perform_hasOutcome ht'.served hd' operation
  constructor
  · intro hfound
    rw [h.answer, h'.answer]
    exact answerFrom_congr hi hfound
  · intro hnew
    rw [h.items, h'.items]
    exact itemsAfter_sameButTime hi hn _ _ hnew
  · rintro item m rfl hl
    have hl' : w'.vault.lookup scope item.key = .ok m :=
      (MemoryVault.lookup_congr hi scope item.key).trans hl
    refine ⟨t.written scope w.vault.drawn (m.revalued w.clock (Payload.write item)), ?_, ?_⟩
    · rw [h.items]
      exact itemsAfter_replaced hd hl _ t
    · rw [h'.items, itemsAfter_replaced hd' hl' _ t, hn]
      rfl
  · rw [h.drawn, h'.drawn]
    exact drawnAfter_congr hi hn operation

section Mixed

def mixedVault : MemoryVault where
  items :=
    [{ Scope.sample.created 0 Timestamp.noon "kr: a" (Payload.write ⟨"a", [1]⟩) with
        tags := ["x", "keyring"] },
      { Scope.sample.created 2 Timestamp.noon "kr: a" "" with state := .archived }]
  drawn := 4
  calls := CallCounts.zero
  delay := none
  failure := none

def mixedWorld (hour : Fin 24) : World :=
  World.ofVault mixedVault { Timestamp.noon with hour }

/-- At one o'clock an SDK client keeps the tags that a gateway drops at two. -/
theorem mixed_vault_agrees :
    (mixedWorld 13).vault.Distinct ∧
      (Transport.standard .standard Duration.zero).Undisturbed (mixedWorld 13).conditions ∧
      (Transport.connect .vault).Undisturbed (mixedWorld 14).conditions ∧
      Agree Scope.sample (.standard .standard Duration.zero) (.connect .vault) .zeroWhenMissing
        .propagate (mixedWorld 13) (mixedWorld 14) (.set ⟨"a", [2]⟩) := by
  have hd : (mixedWorld 13).vault.Distinct := by decide
  have ht : (Transport.standard .standard Duration.zero).Undisturbed (mixedWorld 13).conditions :=
    ⟨rfl, rfl, trivial⟩
  have ht' : (Transport.connect .vault).Undisturbed (mixedWorld 14).conditions :=
    ⟨rfl, rfl, trivial⟩
  exact ⟨hd, ht, ht', transports_interchangeable .sample _ _ _ _ (mixedWorld 13) (mixedWorld 14)
    hd rfl rfl ht ht' _⟩

end Mixed

end Keyring

end VaultRing
