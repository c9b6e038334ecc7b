import VaultRing.Proofs.TitleUniqueness
import VaultRing.Proofs.VaultMap

namespace VaultRing

/-- An operation on a keyring does what it does on a map: it gives the same answer and leaves a
vault that stands for the map after it. -/
structure Keyring.ActsLike (k : Keyring) (w : World) (m : OrderedMap) (operation : Operation) :
    Prop where
  answer : (Action.run (k.perform operation) w).1 = (m.perform k.policy w.clock operation).1
  vault : (Action.run (k.perform operation) w).2.vault.Represents k.scope
    (m.perform k.policy w.clock operation).2

section Refinement

variable {k : Keyring} {w : World} {m : OrderedMap}

theorem Keyring.ActsLike.of_reads {α : Type} {a : Action α} {r : Except KeyringError α}
    (h : w.vault.Represents k.scope m) (ha : a.Reads w r) (f : α → Answer) {operation : Operation}
    (hk : k.perform operation = f <$> a)
    (hm : m.perform k.policy w.clock operation = (r.map f, m)) : k.ActsLike w m operation := by
  obtain ⟨w', hr, ho⟩ := ha.map f
  refine ⟨by rw [hk, hr, hm], ?_⟩
  rw [hk, hr, hm]
  unfold MemoryVault.Represents
  rw [ho.managedItems_eq]
  exact h

theorem Keyring.ActsLike.of_writes {a : Action Unit} {kind : CallKind} {items : List VaultItem}
    {drawn : Nat} (ha : a.Writes w kind items drawn) {operation : Operation}
    (hk : k.perform operation = (fun _ => Answer.done) <$> a) {n : OrderedMap}
    (hm : m.perform k.policy w.clock operation = (.ok .done, n))
    (hn : ∀ v : MemoryVault, v.items = items → v.Represents k.scope n) :
    k.ActsLike w m operation := by
  obtain ⟨w', hr, hw⟩ := ha.map fun _ => Answer.done
  refine ⟨by rw [hk, hr, hm], ?_⟩
  rw [hk, hr, hm]
  exact hn w'.vault hw.items

variable (hs : k.transport.Served w) (hd : w.vault.Distinct)
  (h : w.vault.Represents k.scope m)
include hs hd h

theorem Keyring.get_actsLike (key : String) : k.ActsLike w m (.get key) := by
  refine .of_reads h (get_reads hs hd key) Answer.item rfl ?_
  cases hf : m.find? key with
  | none =>
    simp only [OrderedMap.perform, hf, h.lookup_none hf]
    rfl
  | some e =>
    obtain ⟨managed, hl, hshows⟩ := h.lookup_some hf
    simp only [OrderedMap.perform, hf, hl, Except.bind, hshows.value]
    rfl

theorem Keyring.has_actsLike (key : String) : k.ActsLike w m (.has key) := by
  refine .of_reads h (has_reads hs hd key) Answer.presence rfl ?_
  cases hf : m.find? key with
  | none =>
    simp only [OrderedMap.perform, hf, h.lookup_none hf]
    rfl
  | some e =>
    obtain ⟨managed, hl, hshows⟩ := h.lookup_some hf
    simp only [OrderedMap.perform, hf, hl, Except.bind, hshows.value]
    rfl

theorem Keyring.getMetadata_actsLike (key : String) : k.ActsLike w m (.getMetadata key) := by
  refine .of_reads h (getMetadata_reads hs hd key) Answer.metadata rfl ?_
  cases hf : m.find? key with
  | none =>
    simp only [OrderedMap.perform, hf, h.lookup_none hf]
    cases k.policy <;> rfl
  | some e =>
    obtain ⟨managed, hl, hshows⟩ := h.lookup_some hf
    simp only [OrderedMap.perform, hf, hl, hshows.modifiedAt]
    rfl

theorem Keyring.keys_actsLike : k.ActsLike w m .keys := by
  refine .of_reads h (keys_reads hs hd) Answer.keys rfl ?_
  rw [h.listKeys]
  rfl

theorem Keyring.set_actsLike (item : Item) : k.ActsLike w m (.set item) := by
  cases hf : m.find? item.key with
  | none =>
    have hcreated := k.scope.own?_created w.vault.drawn w.clock (k.scope.encodeTitle item.key)
      (Payload.write item)
    have hnew := k.scope.shows_created w.vault.drawn w.clock (Scope.decode_write item)
    exact .of_writes (set_creates hs hd (h.lookup_none hf)) rfl rfl fun v hv =>
      h.append hf hnew (MemoryVault.managedItems_append hcreated hv)
  | some e =>
    obtain ⟨managed, hl, hshows⟩ := h.lookup_some hf
    obtain ⟨stored, _, ho, _⟩ := MemoryVault.stored_of_lookup hl
    have hwritten := Scope.own?_written k.transport w.vault.drawn w.clock (Payload.write item) ho
    have hnew := Scope.shows_written k.transport w.vault.drawn w.clock (Scope.mem_of_findByKey hl).2
      (Scope.decode_write item)
    exact .of_writes (set_updates hs hd hl) rfl rfl fun v hv =>
      h.replace hf hnew (MemoryVault.managedItems_rewrite hd hl hwritten rfl hv)

theorem Keyring.remove_actsLike (key : String) : k.ActsLike w m (.remove key) := by
  cases hf : m.find? key with
  | none =>
    refine .of_reads h (remove_fails (h.lookup_none hf ▸ find_reads hs hd key))
      (fun _ => Answer.done) rfl ?_
    simp only [OrderedMap.perform, hf]
    rfl
  | some e =>
    obtain ⟨managed, hl, hshows⟩ := h.lookup_some hf
    refine .of_writes (n := m.erase key) (remove_deletes hs hd hl) rfl
      (by simp only [OrderedMap.perform, hf]) fun v hv => ?_
    exact h.erase (MemoryVault.managedItems_delete hd hl hv)

theorem Keyring.perform_actsLike (operation : Operation) : k.ActsLike w m operation := by
  cases operation with
  | get key => exact get_actsLike hs hd h key
  | has key => exact has_actsLike hs hd h key
  | getMetadata key => exact getMetadata_actsLike hs hd h key
  | set item => exact set_actsLike hs hd h item
  | remove key => exact remove_actsLike hs hd h key
  | keys => exact keys_actsLike hs hd h

end Refinement

section Runs

variable {scope : Scope}

theorem runTurns_actsLike (turns : List Turn) (hscope : ∀ t ∈ turns, t.keyring.scope = scope)
    (hturns : ∀ t ∈ turns, t.keyring.transport.Undisturbed t.conditions) {w : World}
    {m : OrderedMap} (hs : w.vault.Sound) (h : w.vault.Represents scope m) :
    (runTurns turns w).1 = (OrderedMap.runTurns turns m).1 ∧
      (runTurns turns w).2.vault.Represents scope (OrderedMap.runTurns turns m).2 := by
  induction turns generalizing w m with
  | nil => exact ⟨rfl, h⟩
  | cons t turns ih =>
    have hserved : t.keyring.transport.Served (w.under t.conditions) :=
      Transport.Undisturbed.served (hturns t (by simp))
    have hact : t.keyring.ActsLike (w.under t.conditions) m t.operation :=
      Keyring.perform_actsLike hserved hs.distinct ((hscope t (by simp)).symm ▸ h) t.operation
    have hsound : (t.run w).2.vault.Sound :=
      (t.run_effect hs.distinct).sound ⟨hs.distinct, hs.fresh⟩
    have hvault := hact.vault
    rw [hscope t (by simp)] at hvault
    obtain ⟨hanswers, hend⟩ := ih (fun u hu => hscope u (by simp [hu]))
      (fun u hu => hturns u (by simp [hu])) hsound hvault
    exact ⟨congrArg₂ List.cons hact.answer hanswers, hend⟩

theorem exists_entries {items : List ManagedItem}
    (h : ∀ managed ∈ items, ∃ item, Keyring.decode managed.field.value = .ok item ∧
      managed.title = scope.encodeTitle item.key) :
    ∃ entries, List.Forall₂ scope.Shows items entries := by
  induction items with
  | nil => exact ⟨[], .nil⟩
  | cons managed items ih =>
    obtain ⟨item, hvalue, htitle⟩ := h managed (by simp)
    obtain ⟨entries, he⟩ := ih fun other ho => h other (by simp [ho])
    exact ⟨⟨item, managed.updatedAt⟩ :: entries, .cons ⟨htitle, hvalue, rfl⟩ he⟩

theorem MemoryVault.exists_represents {v : MemoryVault} (ht : v.UniqueTitles scope)
    (h : ∀ managed ∈ v.managedItems scope, ∃ item, Keyring.decode managed.field.value = .ok item ∧
      managed.title = scope.encodeTitle item.key) :
    ∃ m, v.Represents scope m := by
  obtain ⟨entries, he⟩ := exists_entries h
  have hn : ((entries.map Entry.key).map scope.encodeTitle).Nodup := titles_of_shows he ▸ ht
  exact ⟨⟨entries, hn.of_map⟩, he⟩

/-- Keyrings of one scope answer like an insertion-ordered map. The vault may hold other items, the
transports may be mixed, and the clock may change from turn to turn; what a scope manages at first
has to be readable, each item under a key of its own. -/
theorem runTurns_eq_orderedMap (scope : Scope) (w : World) (hd : w.vault.Distinct)
    (hf : w.vault.Fresh) (ht : w.vault.UniqueTitles scope)
    (hitems : ∀ managed ∈ w.vault.managedItems scope, ∃ item,
      Keyring.decode managed.field.value = .ok item ∧
        managed.title = scope.encodeTitle item.key)
    (turns : List Turn) (hscope : ∀ t ∈ turns, t.keyring.scope = scope)
    (hturns : ∀ t ∈ turns, t.keyring.transport.Undisturbed t.conditions) :
    ∃ m : OrderedMap, w.vault.Represents scope m ∧
      (runTurns turns w).1 = (OrderedMap.runTurns turns m).1 ∧
      (runTurns turns w).2.vault.Represents scope (OrderedMap.runTurns turns m).2 := by
  obtain ⟨m, hm⟩ := MemoryVault.exists_represents ht hitems
  exact ⟨m, hm, runTurns_actsLike turns hscope hturns ⟨hd, hf⟩ hm⟩

end Runs

section Stored

def storedVault : MemoryVault where
  items :=
    [Scope.sample.created 0 Timestamp.noon "kr: a" (Payload.write ⟨"a", [1]⟩),
      { Scope.sample.created 2 Timestamp.noon "kr: a" "" with tags := [] }]
  drawn := 4
  calls := CallCounts.zero
  delay := none
  failure := none

def storedTurns : List Turn :=
  let conditions := (World.ofVault storedVault Timestamp.noon).conditions
  [⟨conditions, .sampleConnect, .set ⟨"b", [2, 3]⟩⟩, ⟨conditions, .sampleLazy, .set ⟨"a", []⟩⟩,
    ⟨conditions, .sampleStandard, .keys⟩, ⟨conditions, .sampleConnect, .remove "a"⟩,
    ⟨conditions, .sampleLazy, .getMetadata "a"⟩, ⟨conditions, .sampleStandard, .get "b"⟩]

theorem storedTurns_eq_orderedMap :
    storedVault.Distinct ∧ storedVault.Fresh ∧ storedVault.UniqueTitles Scope.sample ∧
      ∃ m : OrderedMap, storedVault.Represents Scope.sample m ∧
        (runTurns storedTurns (World.ofVault storedVault Timestamp.noon)).1 =
          (OrderedMap.runTurns storedTurns m).1 ∧
        (runTurns storedTurns (World.ofVault storedVault Timestamp.noon)).2.vault.Represents
          Scope.sample (OrderedMap.runTurns storedTurns m).2 := by
  have hd : storedVault.Distinct := by decide
  have hf : storedVault.Fresh := MemoryVault.fresh_of_given fun item hi => by
    rcases List.mem_pair.mp hi with rfl | rfl
    · exact ⟨1, by decide, rfl⟩
    · exact ⟨3, by decide, rfl⟩
  have ht : storedVault.UniqueTitles Scope.sample := by decide
  refine ⟨hd, hf, ht, runTurns_eq_orderedMap Scope.sample (World.ofVault storedVault Timestamp.noon)
    hd hf ht ?_ storedTurns ?_ ?_⟩
  · intro managed hm
    obtain rfl : managed = _ := List.mem_singleton.mp hm
    exact ⟨⟨"a", [1]⟩, Scope.decode_write ⟨"a", [1]⟩, rfl⟩
  · simp [storedTurns, Keyring.sampleConnect, Keyring.sampleLazy, Keyring.sampleStandard]
  · intro t h
    simp only [storedTurns, List.mem_cons, List.not_mem_nil, or_false] at h
    rcases h with rfl | rfl | rfl | rfl | rfl | rfl
    all_goals exact ⟨rfl, rfl, by trivial⟩

end Stored

end VaultRing
