import VaultRing.Proofs.VaultMap

namespace VaultRing

/-- What a keyring takes for the item of a key, if nothing else is. -/
def Scope.IsItemOf (scope : Scope) (key : String) (i : VaultItem) : Prop :=
  i.vaultId = scope.vaultId ∧ (scope.managed? i).isSome ∧ i.title = scope.encodeTitle key

theorem Scope.isItemOf_iff {scope : Scope} {key : String} {i : VaultItem} :
    scope.IsItemOf key i ↔ ∃ m, scope.own? i = some m ∧ m.title = scope.encodeTitle key := by
  constructor
  · rintro ⟨hv, hm, ht⟩
    obtain ⟨m, hm⟩ := Option.isSome_iff_exists.mp hm
    have ho : scope.own? i = some m := by simpa [own?, hv] using hm
    exact ⟨m, ho, (describes_of_own? ho).title.trans ht⟩
  · rintro ⟨m, ho, ht⟩
    have hd := describes_of_own? ho
    have hm : scope.managed? i = some m := by simpa [own?, hd.vaultId] using ho
    exact ⟨hd.vaultId, by simp [hm], hd.title.symm.trans ht⟩

namespace MemoryVault

section Split

variable {before after : List VaultItem} {old : VaultItem}

theorem rewrite_split {new : VaultItem} (hp : place old = place new)
    (hothers : ∀ i ∈ before ++ after, place i ≠ place old) :
    rewrite new (before ++ old :: after) = before ++ new :: after := by
  have hbefore : rewrite new before = before := by
    apply rewrite_eq_self
    intro i hi
    exact hp ▸ hothers i (List.mem_append_left _ hi)
  have hafter : rewrite new after = after := by
    apply rewrite_eq_self
    intro i hi
    exact hp ▸ hothers i (List.mem_append_right _ hi)
  unfold rewrite at hbefore hafter ⊢
  rw [List.map_append, List.map_cons, hbefore, hafter, if_pos hp]

theorem filter_split {vaultId itemId : String} (hp : place old = (vaultId, itemId))
    (hothers : ∀ i ∈ before ++ after, place i ≠ place old) :
    (before ++ old :: after).filter (!isAt vaultId itemId ·) = before ++ after := by
  have hkept : ∀ i ∈ before ++ after, (!isAt vaultId itemId i) = true := by
    intro i hi
    rw [Bool.not_eq_true', Bool.eq_false_iff]
    intro hat
    exact hothers i hi ((isAt_iff.mp hat).trans hp.symm)
  have hold : (!isAt vaultId itemId old) = false := by
    rw [Bool.not_eq_false']
    exact isAt_iff.mpr hp
  rw [List.filter_append, List.filter_cons_of_neg (by simp [hold]), ← List.filter_append]
  exact List.filter_eq_self.mpr hkept

theorem Distinct.place_ne {v : MemoryVault} (h : v.Distinct)
    (hi : v.items = before ++ old :: after) :
    ∀ i ∈ before ++ after, place i ≠ place old := by
  have hperm : (v.items.map place).Perm (place old :: (before ++ after).map place) := by
    rw [hi]
    exact List.perm_middle.map place
  have hnot := (List.nodup_cons.mp (hperm.nodup_iff.mp h)).1
  intro i hm he
  exact hnot (he ▸ List.mem_map_of_mem hm)

end Split

structure SinglesOut (v : MemoryVault) (scope : Scope) (key : String) (m : ManagedItem)
    (before : List VaultItem) (old : VaultItem) (after : List VaultItem) : Prop where
  items : v.items = before ++ old :: after
  own : scope.own? old = some m
  title : m.title = scope.encodeTitle key
  places : ∀ i ∈ before ++ after, place i ≠ place old
  others : ∀ i ∈ before ++ after, ¬ scope.IsItemOf key i

variable {v : MemoryVault} {scope : Scope} {key : String} {m : ManagedItem}

theorem exists_singlesOut (hd : v.Distinct) (hl : v.lookup scope key = .ok m) :
    ∃ before old after, v.SinglesOut scope key m before old after := by
  obtain ⟨old, hmem, ho, ht⟩ := stored_of_lookup hl
  obtain ⟨before, after, hi⟩ := List.append_of_mem hmem
  have hplaces := hd.place_ne hi
  refine ⟨before, old, after, hi, ho, ht, hplaces, fun i hm hitem => ?_⟩
  obtain ⟨other, hother, htitle⟩ := Scope.isItemOf_iff.mp hitem
  have hstored : i ∈ v.items := by
    rw [hi]
    rcases List.mem_append.mp hm with hb | ha
    · exact List.mem_append_left _ hb
    · exact List.mem_append_right _ (List.mem_cons_of_mem _ ha)
  have hfound := (place_iff_title hd hl hstored hother).mpr htitle
  have hsame := (place_iff_title hd hl hmem ho).mpr ht
  exact hplaces i hm (hfound.trans hsame.symm)

variable {before after : List VaultItem} {old : VaultItem}

theorem SinglesOut.isItemOf (h : v.SinglesOut scope key m before old after) :
    scope.IsItemOf key old :=
  Scope.isItemOf_iff.mpr ⟨m, h.own, h.title⟩

theorem SinglesOut.place_eq (h : v.SinglesOut scope key m before old after) :
    place old = (scope.vaultId, m.id) := by
  have hd := Scope.describes_of_own? h.own
  rw [place, hd.vaultId, hd.id]

end MemoryVault

namespace Keyring

variable {k : Keyring} {w : World} {item : Item} {key : String}

theorem served_of_set (ho : k.transport.OverVault) (h : (Action.run (k.set item) w).1 = .ok ()) :
    k.transport.Served w := by
  by_contra hs
  obtain ⟨e, hoe, hr⟩ := find_fails ho hs item.key
  obtain ⟨w', hrun, -⟩ := set_fails hr (KeyringError.isNotFound_of_isOutside hoe)
  rw [hrun] at h
  cases h

theorem served_of_remove (ho : k.transport.OverVault)
    (h : (Action.run (k.remove key) w).1 = .ok ()) : k.transport.Served w := by
  by_contra hs
  obtain ⟨e, -, hr⟩ := find_fails ho hs key
  obtain ⟨w', hrun, -⟩ := remove_fails hr
  rw [hrun] at h
  cases h

/-- What setting an item makes of what is stored: its payload comes last, in a new item, or is
written back in the place of the item that its key had. -/
inductive Sets (k : Keyring) (item : Item) (w : World) (items' : List VaultItem) : Prop where
  | appends (new : VaultItem) (absent : ∀ i ∈ w.vault.items, ¬ k.scope.IsItemOf item.key i)
      (isItem : k.scope.IsItemOf item.key new) (fresh : ∀ i ∈ w.vault.items, i.id ≠ new.id)
      (created : new = k.scope.created w.vault.drawn w.clock (k.scope.encodeTitle item.key)
        (Payload.write item))
      (after : items' = w.vault.items ++ [new])
  | replaces (front : List VaultItem) (old new : VaultItem) (back : List VaultItem)
      (m : ManagedItem) (before : w.vault.items = front ++ old :: back)
      (wasItem : k.scope.IsItemOf item.key old)
      (others : ∀ i ∈ front ++ back, ¬ k.scope.IsItemOf item.key i)
      (isItem : k.scope.IsItemOf item.key new)
      (place : MemoryVault.place new = MemoryVault.place old) (found : k.scope.own? old = some m)
      (written : new = k.transport.written k.scope w.vault.drawn
        (m.revalued w.clock (Payload.write item)))
      (after : items' = front ++ new :: back)

inductive Removes (scope : Scope) (key : String) (items items' : List VaultItem) : Prop where
  | takes (front : List VaultItem) (old : VaultItem) (back : List VaultItem)
      (before : items = front ++ old :: back) (wasItem : scope.IsItemOf key old)
      (others : ∀ i ∈ front ++ back, ¬ scope.IsItemOf key i) (after : items' = front ++ back)

theorem absent_of_keyNotFound {v : MemoryVault} {scope : Scope}
    (hl : v.lookup scope key = .error .keyNotFound) : ∀ i ∈ v.items, ¬ scope.IsItemOf key i := by
  intro i hi hitem
  obtain ⟨m, ho, ht⟩ := Scope.isItemOf_iff.mp hitem
  exact Scope.title_ne_of_keyNotFound hl (List.mem_filterMap.mpr ⟨i, hi, ho⟩) ht

theorem set_sets (hs : k.transport.Served w) (hd : w.vault.Distinct) (hf : w.vault.Fresh)
    (h : (Action.run (k.set item) w).1 = .ok ()) :
    k.Sets item w (Action.run (k.set item) w).2.vault.items := by
  cases hl : w.vault.lookup k.scope item.key with
  | ok m =>
    obtain ⟨front, old, back, hsingle⟩ := MemoryVault.exists_singlesOut hd hl
    obtain ⟨w', hrun, hw⟩ := set_updates hs hd hl
    have hwritten := Scope.own?_written k.transport w.vault.drawn w.clock (Payload.write item)
      hsingle.own
    refine .replaces front old _ back m hsingle.items hsingle.isItemOf hsingle.others
      (Scope.isItemOf_iff.mpr ⟨_, hwritten, hsingle.title⟩) hsingle.place_eq.symm hsingle.own rfl ?_
    rw [hrun]
    refine hw.items.trans ?_
    rw [hsingle.items]
    exact MemoryVault.rewrite_split hsingle.place_eq hsingle.places
  | error e =>
    cases he : e.isNotFound with
    | true =>
      obtain rfl := KeyringError.eq_keyNotFound he
      obtain ⟨w', hrun, hw⟩ := set_creates hs hd hl
      have hcreated := k.scope.own?_created w.vault.drawn w.clock (k.scope.encodeTitle item.key)
        (Payload.write item)
      refine .appends _ (absent_of_keyNotFound hl)
        (Scope.isItemOf_iff.mpr ⟨_, hcreated, rfl⟩) (fun i hi => ?_) rfl
        (by rw [hrun]; exact hw.items)
      exact hf i hi (w.vault.drawn + 1) (Nat.lt_succ_self _)
    | false =>
      obtain ⟨w', hrun, -⟩ := set_fails (hl ▸ find_reads hs hd item.key) he
      rw [hrun] at h
      cases h

theorem remove_removes (hs : k.transport.Served w) (hd : w.vault.Distinct)
    (h : (Action.run (k.remove key) w).1 = .ok ()) :
    Removes k.scope key w.vault.items (Action.run (k.remove key) w).2.vault.items := by
  cases hl : w.vault.lookup k.scope key with
  | ok m =>
    obtain ⟨front, old, back, hsingle⟩ := MemoryVault.exists_singlesOut hd hl
    obtain ⟨w', hrun, hw⟩ := remove_deletes hs hd hl
    refine .takes front old back hsingle.items hsingle.isItemOf hsingle.others ?_
    rw [hrun]
    refine hw.items.trans ?_
    rw [hsingle.items]
    exact MemoryVault.filter_split hsingle.place_eq hsingle.places
  | error e =>
    obtain ⟨w', hrun, -⟩ := remove_fails (hl ▸ find_reads hs hd key)
    rw [hrun] at h
    cases h

/-- Whatever else is stored, and wherever else an id occurs again: setting or removing a key with
success touches at most the one item of the key, and what is set there is the payload. -/
theorem writes_touch_own_item (k : Keyring) (w : World) (ho : k.transport.OverVault)
    (hd : w.vault.Distinct) (hf : w.vault.Fresh) :
    (∀ item : Item, (Action.run (k.set item) w).1 = .ok () →
      k.Sets item w (Action.run (k.set item) w).2.vault.items) ∧
    ∀ key : String, (Action.run (k.remove key) w).1 = .ok () →
      Removes k.scope key w.vault.items (Action.run (k.remove key) w).2.vault.items := by
  constructor
  · intro item h
    exact set_sets (served_of_set ho h) hd hf h
  · intro key h
    exact remove_removes (served_of_remove ho h) hd h

section Neighbours

def neighbourVault : MemoryVault where
  items :=
    let item (n : Nat) := Scope.sample.created n Timestamp.noon "kr: a" ""
    [{ item 0 with vaultId := "w" }, item 0, { item 2 with state := .archived },
      { item 4 with fields := (item 4).fields ++ (item 4).fields },
      { item 0 with vaultId := "x", category := .login, tags := [] }]
  drawn := 6
  calls := CallCounts.zero
  delay := none
  failure := none

theorem neighbourVault_fresh : neighbourVault.Fresh :=
  MemoryVault.fresh_of_given fun item hi => by
    simp only [neighbourVault, List.mem_cons, List.not_mem_nil, or_false] at hi
    rcases hi with rfl | rfl | rfl | rfl | rfl
    · exact ⟨1, by decide, rfl⟩
    · exact ⟨1, by decide, rfl⟩
    · exact ⟨3, by decide, rfl⟩
    · exact ⟨5, by decide, rfl⟩
    · exact ⟨1, by decide, rfl⟩

def neighbourWorld : World := World.ofVault neighbourVault Timestamp.noon

theorem neighbours_are_not_touched :
    neighbourVault.Distinct ∧ neighbourVault.Fresh ∧
      (Action.run (sampleConnect.set ⟨"a", [1]⟩) neighbourWorld).1 = .ok () ∧
      sampleConnect.Sets ⟨"a", [1]⟩ neighbourWorld
        (Action.run (sampleConnect.set ⟨"a", [1]⟩) neighbourWorld).2.vault.items ∧
      (Action.run (sampleConnect.remove "a") neighbourWorld).1 = .ok () ∧
      Removes Scope.sample "a" neighbourVault.items
        (Action.run (sampleConnect.remove "a") neighbourWorld).2.vault.items := by
  have hd : neighbourVault.Distinct := by decide
  have htouch := writes_touch_own_item sampleConnect neighbourWorld trivial hd
    neighbourVault_fresh
  have hset : (Action.run (sampleConnect.set ⟨"a", [1]⟩) neighbourWorld).1 = .ok () := by decide
  have hremove : (Action.run (sampleConnect.remove "a") neighbourWorld).1 = .ok () := by decide
  exact ⟨hd, neighbourVault_fresh, hset, htouch.1 _ hset, hremove, htouch.2 _ hremove⟩

end Neighbours

end Keyring

end VaultRing
