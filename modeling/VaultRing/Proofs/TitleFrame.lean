import VaultRing.Proofs.KeyringSession

namespace VaultRing

/-- The titles of the items that may be written, and of those that may be removed. -/
structure Touch where
  sets : String → Prop
  removes : String → Prop

namespace Touch

def none : Touch := ⟨fun _ => False, fun _ => False⟩

structure Within (a b : Touch) : Prop where
  sets : ∀ t, a.sets t → b.sets t
  removes : ∀ t, a.removes t → b.removes t

structure Spares (o : Touch) (title : String) : Prop where
  sets : ¬ o.sets title
  removes : ¬ o.removes title
  apart : ∀ t, o.sets t → ¬ o.removes t

end Touch

namespace MemoryVault

def titled (v : MemoryVault) (title : String) : List VaultItem :=
  v.items.filter (·.title == title)

theorem mem_titled {v : MemoryVault} {title : String} {i : VaultItem} :
    i ∈ v.titled title ↔ i ∈ v.items ∧ i.title = title := by
  simp [titled]

theorem managedItems_titled (v : MemoryVault) (scope : Scope) (title : String) :
    (v.managedItems scope).filter (·.title == title) =
      (v.titled title).filterMap scope.own? := by
  unfold managedItems titled
  rw [List.filter_filterMap, List.filterMap_filter]
  apply List.filterMap_congr
  intro i _
  cases ho : scope.own? i with
  | none => simp
  | some m => simp [(Scope.describes_of_own? ho).title, Option.filter_some]

theorem filter_rewrite {item : VaultItem} {items : List VaultItem} (p : String → Bool)
    (h : ∀ i ∈ items, place i = place item → i.title = item.title) :
    (rewrite item items).filter (p ·.title) = rewrite item (items.filter (p ·.title)) := by
  unfold rewrite
  rw [List.filter_map]
  refine congrArg _ (List.filter_congr fun i hi => ?_)
  by_cases hp : place i = place item
  · simp [hp, h i hi hp]
  · simp [hp]

theorem lookup_of_titled {v v' : MemoryVault} {scope : Scope} {key : String}
    (h : v'.titled (scope.encodeTitle key) = v.titled (scope.encodeTitle key)) :
    v'.lookup scope key = v.lookup scope key := by
  simp only [lookup, Scope.findByKey, managedItems_titled, h]

end MemoryVault

namespace World

open MemoryVault (place)

/-- What may have become of the items of a vault, and of what surrounds it, when only items with
certain titles have been written or removed. -/
structure Changed (o : Touch) (w w' : World) : Prop where
  kept : ∀ p : String → Bool, (∀ t, p t = true → ¬ o.sets t ∧ ¬ o.removes t) →
    w'.vault.items.filter (p ·.title) = w.vault.items.filter (p ·.title)
  stays : ∀ i ∈ w.vault.items,
    o.removes i.title ∨ ∃ j ∈ w'.vault.items, place j = place i ∧ j.title = i.title
  origin : ∀ j ∈ w'.vault.items,
    o.sets j.title ∨ ∃ i ∈ w.vault.items, place i = place j ∧ i.title = j.title
  sound : w.vault.Sound → w'.vault.Sound
  drawn : w.vault.drawn ≤ w'.vault.drawn
  conditions : w'.conditions = { w.conditions with clock := w'.clock }
  filled : ∀ slot ∈ w.filled, slot ∈ w'.filled

namespace Changed

variable {o : Touch} {w w' w₁ w₂ w₃ : World}

theorem trans (h : w₁.Changed o w₂) (h' : w₂.Changed o w₃) : w₁.Changed o w₃ where
  kept := fun p hp => (h'.kept p hp).trans (h.kept p hp)
  stays := by
    intro i hi
    obtain hr | ⟨j, hj, hp, ht⟩ := h.stays i hi
    · exact .inl hr
    · obtain hr | ⟨l, hl, hp', ht'⟩ := h'.stays j hj
      · exact .inl (ht ▸ hr)
      · exact .inr ⟨l, hl, hp'.trans hp, ht'.trans ht⟩
  origin := by
    intro l hl
    obtain hs | ⟨j, hj, hp, ht⟩ := h'.origin l hl
    · exact .inl hs
    · obtain hs | ⟨i, hi, hp', ht'⟩ := h.origin j hj
      · exact .inl (ht ▸ hs)
      · exact .inr ⟨i, hi, hp'.trans hp, ht'.trans ht⟩
  sound := fun hs => h'.sound (h.sound hs)
  drawn := Nat.le_trans h.drawn h'.drawn
  conditions := by rw [h'.conditions, h.conditions]
  filled := fun slot hs => h'.filled slot (h.filled slot hs)

theorem mono {o' : Touch} (h : w.Changed o w') (ho : o.Within o') : w.Changed o' w' where
  kept := fun p hp =>
    h.kept p fun t ht =>
      ⟨fun hs => (hp t ht).1 (ho.sets t hs), fun hr => (hp t ht).2 (ho.removes t hr)⟩
  stays := fun i hi => (h.stays i hi).imp_left (ho.removes _)
  origin := fun j hj => (h.origin j hj).imp_left (ho.sets _)
  sound := h.sound
  drawn := h.drawn
  conditions := h.conditions
  filled := h.filled

theorem of_items (hi : w'.vault.items = w.vault.items) (hn : w'.vault.drawn = w.vault.drawn)
    (hc : w'.conditions = { w.conditions with clock := w'.clock })
    (hf : ∀ slot ∈ w.filled, slot ∈ w'.filled) : w.Changed o w' where
  kept := fun p _ => by rw [hi]
  stays := fun i hm => .inr ⟨i, hi ▸ hm, rfl, rfl⟩
  origin := fun j hm => .inr ⟨j, hi ▸ hm, rfl, rfl⟩
  sound := fun hs => hs.of_items (by rw [hi]) (Nat.le_of_eq hn.symm)
  drawn := Nat.le_of_eq hn.symm
  conditions := hc
  filled := hf

theorem refl (w : World) : w.Changed o w := of_items rfl rfl rfl fun _ h => h

theorem at_clock (w : World) (now : Timestamp) : w.Changed o { w with clock := now } :=
  of_items rfl rfl rfl fun _ h => h

theorem of_sameStore (h : w.SameStore w') : w.Changed o w' :=
  of_items h.items h.drawn (by rw [h.conditions, h.clock_eq]; rfl) h.filled

section Write

variable {kind : CallKind} {items : List VaultItem} {drawn : Nat} {item : VaultItem}

theorem conditions_of_wrote (h : Wrote kind items drawn w w') :
    w'.conditions = { w.conditions with clock := w'.clock } := by
  have hclock : w'.clock = w.clock := congrArg Conditions.clock h.conditions
  rw [h.conditions, hclock]
  rfl

theorem of_create (h : Wrote kind (w.vault.items ++ [item]) drawn w w')
    (hid : item.id = MemoryVault.idText (w.vault.drawn + 1)) (hn : w.vault.drawn < drawn) :
    w.Changed ⟨(· = item.title), fun _ => False⟩ w' where
  kept := by
    intro p hp
    have hitem : p item.title = false := Bool.eq_false_iff.mpr fun ht => (hp _ ht).1 rfl
    simp [h.items, hitem]
  stays := fun i hi => .inr ⟨i, h.items ▸ List.mem_append_left _ hi, rfl, rfl⟩
  origin := by
    intro j hj
    rw [h.items, List.mem_append, List.mem_singleton] at hj
    rcases hj with hj | rfl
    · exact .inr ⟨j, hj, rfl, rfl⟩
    · exact .inl rfl
  sound := fun hs => hs.append hid h.items (h.drawn ▸ hn)
  drawn := h.drawn ▸ Nat.le_of_lt hn
  conditions := conditions_of_wrote h
  filled := h.filled

theorem of_rewrite (h : Wrote kind (MemoryVault.rewrite item w.vault.items) drawn w w')
    (ht : ∀ i ∈ w.vault.items, place i = place item → i.title = item.title)
    (hn : w.vault.drawn ≤ drawn) : w.Changed ⟨(· = item.title), fun _ => False⟩ w' where
  kept := by
    intro p hp
    have hitem : p item.title = false := Bool.eq_false_iff.mpr fun ht => (hp _ ht).1 rfl
    rw [h.items, MemoryVault.filter_rewrite p ht]
    refine MemoryVault.rewrite_eq_self fun i hi he => ?_
    obtain ⟨hmem, hpi⟩ := List.mem_filter.mp hi
    rw [ht i hmem he, hitem] at hpi
    cases hpi
  stays := by
    intro i hi
    refine .inr ⟨if place i = place item then item else i, ?_, ?_⟩
    · rw [h.items]
      exact List.mem_map_of_mem hi
    · split
      · rename_i he
        exact ⟨he.symm, (ht i hi he).symm⟩
      · exact ⟨rfl, rfl⟩
  origin := by
    intro j hj
    rw [h.items] at hj
    obtain ⟨i, hi, rfl⟩ := List.mem_map.mp hj
    split
    · exact .inl rfl
    · exact .inr ⟨i, hi, rfl, rfl⟩
  sound := fun hs => hs.rewrite h.items (h.drawn ▸ hn)
  drawn := h.drawn ▸ hn
  conditions := conditions_of_wrote h
  filled := h.filled

theorem of_delete {vaultId itemId title : String}
    (h : Wrote kind (w.vault.items.filter (!MemoryVault.isAt vaultId itemId ·)) w.vault.drawn w w')
    (ht : ∀ i ∈ w.vault.items, place i = (vaultId, itemId) → i.title = title) :
    w.Changed ⟨fun _ => False, (· = title)⟩ w' where
  kept := by
    intro p hp
    have htitle : p title = false := Bool.eq_false_iff.mpr fun ht => (hp _ ht).2 rfl
    rw [h.items, List.filter_filter]
    apply List.filter_congr
    intro i hi
    cases hat : MemoryVault.isAt vaultId itemId i with
    | true => simp [ht i hi (MemoryVault.isAt_iff.mp hat), htitle]
    | false => simp
  stays := by
    intro i hi
    cases hat : MemoryVault.isAt vaultId itemId i with
    | true => exact .inl (ht i hi (MemoryVault.isAt_iff.mp hat))
    | false =>
      refine .inr ⟨i, ?_, rfl, rfl⟩
      rw [h.items]
      exact List.mem_filter.mpr ⟨hi, by simp [hat]⟩
  origin := by
    intro j hj
    rw [h.items] at hj
    exact .inr ⟨j, List.mem_of_mem_filter hj, rfl, rfl⟩
  sound := fun hs => hs.of_items (h.items ▸ List.filter_sublist) (Nat.le_of_eq h.drawn.symm)
  drawn := Nat.le_of_eq h.drawn.symm
  conditions := conditions_of_wrote h
  filled := h.filled

end Write

section Spared

variable {title : String}

theorem titled_eq (h : w.Changed o w') (ho : o.Spares title) :
    w'.vault.titled title = w.vault.titled title :=
  h.kept (· == title) fun _ ht => (beq_iff_eq.mp ht) ▸ ⟨ho.sets, ho.removes⟩

theorem lookup_eq {scope : Scope} {key : String} (h : w.Changed o w')
    (ho : o.Spares (scope.encodeTitle key)) :
    w'.vault.lookup scope key = w.vault.lookup scope key :=
  MemoryVault.lookup_of_titled (h.titled_eq ho)

/-- An item that bears a title that is spared is found later as it is. -/
theorem find_spared (h : w.Changed o w') (hs : w.vault.Sound) {i : VaultItem}
    (hi : i ∈ w.vault.items) (ho : o.Spares i.title) :
    w'.vault.find i.vaultId i.id = .ok i := by
  have hmem : i ∈ w'.vault.titled i.title := h.titled_eq ho ▸ MemoryVault.mem_titled.mpr ⟨hi, rfl⟩
  exact (h.sound hs).distinct.find_eq (MemoryVault.mem_titled.mp hmem).1

/-- Any other item may have been written, or removed; but it does not come to bear the title. -/
theorem find_other (h : w.Changed o w') (hs : w.vault.Sound) (ho : o.Spares title)
    {i : VaultItem} (hi : i ∈ w.vault.items) (ht : i.title ≠ title) :
    (∃ j, w'.vault.find i.vaultId i.id = .ok j ∧ j.title ≠ title) ∨
      o.removes i.title ∧ w'.vault.find i.vaultId i.id = .error (MemoryVault.notFound i.id) := by
  unfold MemoryVault.find
  cases hfind : w'.vault.items.find? (MemoryVault.isAt i.vaultId i.id) with
  | some j =>
    refine .inl ⟨j, rfl, fun hj => ht ?_⟩
    have hplace : place j = place i := MemoryVault.isAt_iff.mp (List.find?_some hfind)
    have hmem : j ∈ w.vault.titled title :=
      h.titled_eq ho ▸ MemoryVault.mem_titled.mpr ⟨List.mem_of_find?_eq_some hfind, hj⟩
    obtain rfl : j = i := hs.distinct.eq_of_place (MemoryVault.mem_titled.mp hmem).1 hi hplace
    exact hj
  | none =>
    refine .inr ⟨(h.stays i hi).resolve_right ?_, rfl⟩
    rintro ⟨j, hj, hplace, -⟩
    exact List.find?_eq_none.mp hfind j hj (MemoryVault.isAt_iff.mpr hplace)

end Spared

section Conditions

theorem answers (h : w.Changed o w') {limit : Option Duration} (ha : w.vault.Answers limit) :
    w'.vault.Answers limit := by
  have hf : w'.vault.failure = w.vault.failure := congrArg Conditions.failure h.conditions
  have hd : w'.vault.delay = w.vault.delay := congrArg Conditions.delay h.conditions
  have hl : w'.vault.isLate limit = w.vault.isLate limit := by simp only [MemoryVault.isLate, hd]
  exact ⟨hl ▸ ha.timely, hf ▸ ha.healthy⟩

theorem undisturbed (h : w.Changed o w') {t : Transport} (ht : t.Undisturbed w.conditions) :
    t.Undisturbed w'.conditions := by
  rw [h.conditions]
  refine ⟨ht.healthy, ht.undelayed, ?_⟩
  have hw := ht.works
  cases t with
  | standard backend limit => trivial
  | lazy slot backend auth limit => exact hw
  | connect client =>
    cases client with
    | vault => trivial
    | http c => exact hw

end Conditions

end Changed

end World

end VaultRing
