import VaultRing.Proofs.KeyringSession

namespace VaultRing

namespace MemoryVault

/-- How many items a keyring could take for the item of a key. -/
def matchCount (v : MemoryVault) (scope : Scope) (key : String) : Nat :=
  v.items.countP fun i =>
    i.vaultId == scope.vaultId && (scope.managed? i).isSome && i.title == scope.encodeTitle key

variable {v : MemoryVault} {scope : Scope} {key : String}

theorem length_filter_managedItems (v : MemoryVault) (scope : Scope) (key : String) :
    ((v.managedItems scope).filter (·.title == scope.encodeTitle key)).length =
      v.matchCount scope key := by
  unfold managedItems matchCount
  induction v.items with
  | nil => rfl
  | cons i items ih =>
    rw [List.countP_cons, ← ih]
    cases ho : scope.own? i with
    | none =>
      have hnot : (i.vaultId == scope.vaultId && (scope.managed? i).isSome) = false := by
        by_cases hv : i.vaultId = scope.vaultId
        · have hm : scope.managed? i = none := by simpa [Scope.own?, hv] using ho
          simp [hm]
        · simp [hv]
      rw [List.filterMap_cons_none ho, hnot]
      simp
    | some m =>
      have hd := Scope.describes_of_own? ho
      have hm : scope.managed? i = some m := by simpa [Scope.own?, hd.vaultId] using ho
      rw [List.filterMap_cons_some ho, List.filter_cons, hd.title]
      by_cases ht : i.title = scope.encodeTitle key <;> simp [ht, hm, hd.vaultId]

theorem lookup_of_matchCount_zero (h : v.matchCount scope key = 0) :
    v.lookup scope key = .error .keyNotFound := by
  rw [← length_filter_managedItems, List.length_eq_zero_iff] at h
  exact Scope.findByKey_eq_keyNotFound_iff.mpr h

theorem lookup_of_matchCount_one (h : v.matchCount scope key = 1) :
    ∃ m, v.lookup scope key = .ok m := by
  rw [← length_filter_managedItems, List.length_eq_one_iff] at h
  obtain ⟨m, hm⟩ := h
  exact ⟨m, Scope.findByKey_eq_ok_iff.mpr hm⟩

theorem lookup_of_two_le_matchCount (h : 2 ≤ v.matchCount scope key) :
    v.lookup scope key =
      .error (.ambiguous (v.matchCount scope key) (scope.encodeTitle key) scope.vaultId) := by
  rw [← length_filter_managedItems] at h ⊢
  exact Scope.findByKey_of_two_le h

end MemoryVault

namespace Keyring

variable {k : Keyring} {w : World} {key : String}

section

variable (hs : k.transport.Served w) (hd : w.vault.Distinct)
include hs hd

/-- A lookup that fails for another reason than a missing key fails every operation on the key. -/
theorem perform_of_lookup_error {e : KeyringError} (hl : w.vault.lookup k.scope key = .error e)
    (he : e.isNotFound = false) {operation : Operation} (hkey : operation.key? = some key) :
    (k.perform operation).Reads w (.error e) := by
  cases operation with
  | get other =>
    obtain rfl : other = key := Option.some.inj hkey
    have hr := get_reads hs hd other
    rw [hl] at hr
    exact hr.map _
  | has other =>
    obtain rfl : other = key := Option.some.inj hkey
    have hr := has_reads hs hd other
    rw [hl] at hr
    simp only [Except.bind, he, Bool.false_eq_true, ↓reduceIte] at hr
    exact hr.map _
  | getMetadata other =>
    obtain rfl : other = key := Option.some.inj hkey
    have hr := getMetadata_reads hs hd other
    rw [hl] at hr
    simp only [he, Bool.false_and, Bool.false_eq_true, ↓reduceIte] at hr
    exact hr.map _
  | set item =>
    obtain rfl : item.key = key := Option.some.inj hkey
    exact (set_fails (hl ▸ find_reads hs hd item.key) he).map _
  | remove other =>
    obtain rfl : other = key := Option.some.inj hkey
    exact (remove_fails (hl ▸ find_reads hs hd other)).map _
  | keys => cases hkey

/-- Once the item of the key is found, only its value can be at fault. -/
theorem perform_of_lookup_ok {m : ManagedItem} (hl : w.vault.lookup k.scope key = .ok m)
    {operation : Operation} (hkey : operation.key? = some key) {e : KeyringError}
    (he : (Action.run (k.perform operation) w).1 = .error e) : ∃ fault, e = .decode fault := by
  cases operation with
  | get other =>
    obtain rfl : other = key := Option.some.inj hkey
    obtain ⟨w', hr, _⟩ := (hl ▸ get_reads hs hd other).map Answer.item
    rw [perform, hr] at he
    cases hp : Payload.read m.field.value with
    | ok item => simp [decode, Except.bind, Except.map, Except.mapError, hp] at he
    | error fault =>
      simp only [decode, Except.bind, Except.map, Except.mapError, hp, Except.error.injEq] at he
      exact ⟨fault, he.symm⟩
  | has other =>
    obtain rfl : other = key := Option.some.inj hkey
    obtain ⟨w', hr, _⟩ := (hl ▸ has_reads hs hd other).map Answer.presence
    rw [perform, hr] at he
    cases hp : Payload.read m.field.value with
    | ok item => simp [decode, Except.bind, Except.map, Except.mapError, hp] at he
    | error fault =>
      simp only [decode, Except.bind, Except.map, Except.mapError, hp, KeyringError.isNotFound,
        Bool.false_eq_true, ↓reduceIte, Except.error.injEq] at he
      exact ⟨fault, he.symm⟩
  | getMetadata other =>
    obtain rfl : other = key := Option.some.inj hkey
    obtain ⟨w', hr, _⟩ := (hl ▸ getMetadata_reads hs hd other).map Answer.metadata
    rw [perform, hr] at he
    cases he
  | set item =>
    obtain rfl : item.key = key := Option.some.inj hkey
    obtain ⟨w', hr, _⟩ := (set_updates hs hd hl).map fun _ => Answer.done
    rw [perform, hr] at he
    cases he
  | remove other =>
    obtain rfl : other = key := Option.some.inj hkey
    obtain ⟨w', hr, _⟩ := (remove_deletes hs hd hl).map fun _ => Answer.done
    rw [perform, hr] at he
    cases he
  | keys => cases hkey

end

/-- How many items match a key decides what is answered: of several none is chosen and nothing is
written; without one the key is missing, and setting it creates its item; with one the key is
neither missing nor ambiguous. -/
theorem perform_by_matchCount (k : Keyring) (key : String) (w : World) (hd : w.vault.Distinct)
    (hu : k.transport.Undisturbed w.conditions) :
    (2 ≤ w.vault.matchCount k.scope key →
      ∀ operation : Operation, operation.key? = some key →
        ∃ w', Action.run (k.perform operation) w =
            (.error (.ambiguous (w.vault.matchCount k.scope key) (k.scope.encodeTitle key)
              k.scope.vaultId), w') ∧
          w'.vault.items = w.vault.items ∧
          w'.vault.calls.create = w.vault.calls.create ∧
          w'.vault.calls.update = w.vault.calls.update ∧
          w'.vault.calls.delete = w.vault.calls.delete) ∧
    (w.vault.matchCount k.scope key = 0 →
      (Action.run (k.get key) w).1 = .error .keyNotFound ∧
      (Action.run (k.remove key) w).1 = .error .keyNotFound ∧
      (Action.run (k.has key) w).1 = .ok false ∧
      ∀ item : Item, item.key = key →
        ∃ w', Action.run (k.set item) w = (.ok (), w') ∧
          w'.vault.calls.create = w.vault.calls.create + 1 ∧
          w'.vault.items = w.vault.items ++
            [k.scope.created w.vault.drawn w.clock (k.scope.encodeTitle key)
              (Payload.write item)]) ∧
    (w.vault.matchCount k.scope key = 1 →
      ∀ operation : Operation, operation.key? = some key →
        ∀ e, (Action.run (k.perform operation) w).1 = .error e →
          e ≠ .keyNotFound ∧ ∀ count title vaultId, e ≠ .ambiguous count title vaultId) := by
  have hs := hu.served
  refine ⟨fun hn operation hkey => ?_, fun hn => ?_, fun hn operation hkey e he => ?_⟩
  · have hl := MemoryVault.lookup_of_two_le_matchCount hn
    obtain ⟨w', hr, ho⟩ := perform_of_lookup_error hs hd hl rfl hkey
    exact ⟨w', hr, ho.items, ho.writes .create rfl, ho.writes .update rfl, ho.writes .delete rfl⟩
  · have hl := MemoryVault.lookup_of_matchCount_zero hn
    obtain ⟨_, hget, _⟩ := hl ▸ get_reads hs hd key
    obtain ⟨_, hremove, _⟩ := remove_fails (hl ▸ find_reads hs hd key)
    obtain ⟨_, hhas, _⟩ := hl ▸ has_reads hs hd key
    refine ⟨by rw [hget]; rfl, by rw [hremove], by rw [hhas]; rfl, ?_⟩
    rintro item rfl
    obtain ⟨w', hr, hw⟩ := set_creates hs hd hl
    exact ⟨w', hr, hw.writes .create rfl, hw.items⟩
  · obtain ⟨m, hl⟩ := MemoryVault.lookup_of_matchCount_one hn
    obtain ⟨fault, rfl⟩ := perform_of_lookup_ok hs hd hl hkey he
    exact ⟨by simp, by simp⟩

section Twins

def twinVault : MemoryVault where
  items :=
    [Scope.sample.created 0 Timestamp.noon "kr: a" "",
      Scope.sample.created 2 Timestamp.noon "kr: b" "",
      { Scope.sample.created 4 Timestamp.noon "kr: a" "" with vaultId := "w" },
      { Scope.sample.created 4 Timestamp.noon "kr: a" "" with tags := ["x", "keyring"] }]
  drawn := 6
  calls := CallCounts.zero
  delay := none
  failure := none

theorem remove_twins_ambiguous :
    twinVault.Distinct ∧
      sampleLazy.transport.Undisturbed (World.ofVault twinVault Timestamp.noon).conditions ∧
      ∃ w', Action.run (sampleLazy.perform (.remove "a"))
          (World.ofVault twinVault Timestamp.noon) = (.error (.ambiguous 2 "kr: a" "v"), w') ∧
        w'.vault.items = twinVault.items := by
  have hd : twinVault.Distinct := by decide
  have hu : sampleLazy.transport.Undisturbed
      (World.ofVault twinVault Timestamp.noon).conditions := ⟨rfl, rfl, rfl, trivial⟩
  have hcount : twinVault.matchCount Scope.sample "a" = 2 := by decide
  obtain ⟨w', hr, hi, _⟩ :=
    (perform_by_matchCount sampleLazy "a" (World.ofVault twinVault Timestamp.noon) hd hu).1
      (Nat.le_of_eq hcount.symm) (.remove "a") rfl
  refine ⟨hd, hu, w', ?_, hi⟩
  rw [hr]
  change (Except.error (KeyringError.ambiguous (twinVault.matchCount Scope.sample "a") "kr: a" "v"),
    w') = _
  rw [hcount]

end Twins

end Keyring

end VaultRing
