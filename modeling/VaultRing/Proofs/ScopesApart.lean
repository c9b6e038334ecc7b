import VaultRing.Proofs.VaultMap
import VaultRing.Proofs.TitleUniqueness

namespace VaultRing

/-- A new item of the one scope is none of the other. -/
def Scope.Differs (acting scope : Scope) : Prop :=
  acting.vaultId ≠ scope.vaultId ∨ acting.tag ≠ scope.tag ∨ acting.fieldTitle ≠ scope.fieldTitle

theorem Scope.Differs.symm {acting scope : Scope} (h : acting.Differs scope) :
    scope.Differs acting := by
  rcases h with hv | ht | hf
  · exact .inl hv.symm
  · exact .inr (.inl ht.symm)
  · exact .inr (.inr hf.symm)

theorem Scope.Differs.ne {acting scope : Scope} (h : acting.Differs scope) : acting ≠ scope := by
  rintro rfl
  rcases h with hv | ht | hf
  · exact hv rfl
  · exact ht rfl
  · exact hf rfl

def MemoryVault.Apart (v : MemoryVault) (acting scope : Scope) : Prop :=
  ∀ item ∈ v.items, acting.own? item = none ∨ scope.own? item = none

theorem MemoryVault.Apart.symm {v : MemoryVault} {acting scope : Scope} (h : v.Apart acting scope) :
    v.Apart scope acting := fun item hi => (h item hi).symm

instance (v : MemoryVault) (acting scope : Scope) : Decidable (v.Apart acting scope) :=
  inferInstanceAs (Decidable (∀ item ∈ v.items, acting.own? item = none ∨ scope.own? item = none))

section Written

variable {acting scope : Scope} {item : VaultItem} {m : ManagedItem}

theorem Scope.own?_created_of_differs (h : acting.Differs scope) (drawn : Nat) (now : Timestamp)
    (title value : String) : scope.own? (acting.created drawn now title value) = none := by
  cases ho : scope.own? (acting.created drawn now title value) with
  | none => rfl
  | some m =>
    obtain ⟨hv, ht, hf, -⟩ := (own?_single rfl rfl rfl rfl).mp ho
    have htag : acting.tag = scope.tag := (List.mem_singleton.mp ht).symm
    rcases h with h | h | h
    · exact absurd hv h
    · exact absurd htag h
    · exact absurd hf h

theorem Scope.own?_written_of_none (t : Transport) (drawn : Nat) (now : Timestamp) (value : String)
    (ho : acting.own? item = some m) (hn : scope.own? item = none) :
    scope.own? (t.written acting drawn (m.revalued now value)) = none := by
  cases hw : scope.own? (t.written acting drawn (m.revalued now value)) with
  | none => rfl
  | some m' =>
    have hold := (own?_of_own?_written ho hw).1
    rw [hn] at hold
    cases hold

end Written

namespace MemoryVault

variable {v : MemoryVault} {acting scope : Scope} {key : String} {m : ManagedItem}

theorem own?_eq_none_of_place (hd : v.Distinct) (ha : v.Apart acting scope)
    (hl : v.lookup acting key = .ok m) {item : VaultItem} (hi : item ∈ v.items)
    (hp : place item = (acting.vaultId, m.id)) : scope.own? item = none := by
  have hown := own?_of_place hd hl hi hp
  rcases ha item hi with hn | hn
  · rw [hown] at hn
    cases hn
  · exact hn

end MemoryVault

namespace Keyring.Effect

variable {k : Keyring} {w w' : World} {scope : Scope}

theorem managedItems_eq (he : k.Effect w w') (hd : w.vault.Distinct)
    (hs : k.scope.Differs scope) (ha : w.vault.Apart k.scope scope) :
    w'.vault.managedItems scope = w.vault.managedItems scope := by
  cases he with
  | read h => exact h.managedItems_eq scope
  | create item hl h =>
    have hnew := Scope.own?_created_of_differs hs w.vault.drawn w.clock
      (k.scope.encodeTitle item.key) (Payload.write item)
    unfold MemoryVault.managedItems
    rw [h.items, List.filterMap_append, List.filterMap_cons_none hnew, List.filterMap_nil,
      List.append_nil]
  | update item m hl h =>
    obtain ⟨stored, hstored, ho, -⟩ := MemoryVault.stored_of_lookup hl
    unfold MemoryVault.managedItems MemoryVault.rewrite at *
    rw [h.items, List.filterMap_map]
    apply List.filterMap_congr
    intro i hi
    rw [Function.comp_apply]
    split
    · rename_i hp
      have hold := MemoryVault.own?_eq_none_of_place hd ha hl hi hp
      rw [hold]
      exact Scope.own?_written_of_none k.transport _ _ _
        (MemoryVault.own?_of_place hd hl hi hp) hold
    · rfl
  | delete key m hl h =>
    unfold MemoryVault.managedItems
    rw [h.items, List.filterMap_filter]
    apply List.filterMap_congr
    intro i hi
    by_cases hp : MemoryVault.isAt k.scope.vaultId m.id i
    · rw [MemoryVault.own?_eq_none_of_place hd ha hl hi (MemoryVault.isAt_iff.mp hp)]
      simp
    · simp [hp]

theorem apart (he : k.Effect w w') (hd : w.vault.Distinct) (hs : k.scope.Differs scope)
    (ha : w.vault.Apart k.scope scope) : w'.vault.Apart k.scope scope := by
  intro i hi
  cases he with
  | read h => exact ha i (h.items ▸ hi)
  | create item hl h =>
    rw [h.items, List.mem_append, List.mem_singleton] at hi
    rcases hi with hi | rfl
    · exact ha i hi
    · exact .inr (Scope.own?_created_of_differs hs _ _ _ _)
  | update item m hl h =>
    rw [h.items] at hi
    obtain ⟨old, hold, rfl⟩ := List.mem_map.mp hi
    split
    · rename_i hp
      have hn := MemoryVault.own?_eq_none_of_place hd ha hl hold hp
      exact .inr (Scope.own?_written_of_none k.transport _ _ _
        (MemoryVault.own?_of_place hd hl hold hp) hn)
    · exact ha old hold
  | delete key m hl h =>
    rw [h.items] at hi
    exact ha i (List.mem_of_mem_filter hi)

end Keyring.Effect

end VaultRing
