import Mathlib.Data.List.Forall2
import VaultRing.Proofs.KeyTitles
import VaultRing.Proofs.OrderedMap
import VaultRing.Proofs.PayloadText

namespace VaultRing

structure Scope.Shows (scope : Scope) (managed : ManagedItem) (e : Entry) : Prop where
  title : managed.title = scope.encodeTitle e.key
  value : Keyring.decode managed.field.value = .ok e.item
  modifiedAt : managed.updatedAt = e.modifiedAt

namespace MemoryVault

/-- The managed items of a scope stand for the entries of a map, in the same order. -/
def Represents (v : MemoryVault) (scope : Scope) (m : OrderedMap) : Prop :=
  List.Forall₂ scope.Shows (v.managedItems scope) m.entries

variable {v : MemoryVault} {scope : Scope} {m : OrderedMap} {key : String}

theorem title_eq_iff {managed : ManagedItem} {e : Entry} (h : scope.Shows managed e)
    (key : String) : managed.title = scope.encodeTitle key ↔ e.key = key := by
  rw [h.title]
  exact scope.encodeTitle_injective.eq_iff

section Lookup

theorem titles_of_shows {items : List ManagedItem} {entries : List Entry}
    (h : List.Forall₂ scope.Shows items entries) :
    items.map (·.title) = (entries.map Entry.key).map scope.encodeTitle := by
  induction h with
  | nil => rfl
  | cons hs _ ih => rw [List.map_cons, List.map_cons, List.map_cons, ih, hs.title]

theorem Represents.titles (h : v.Represents scope m) :
    (v.managedItems scope).map (·.title) = m.keys.map scope.encodeTitle := titles_of_shows h

theorem Represents.matches (h : v.Represents scope m) (key : String) :
    List.Forall₂ scope.Shows
      ((v.managedItems scope).filter (·.title == scope.encodeTitle key)) (m.find? key).toList := by
  rw [← m.filter_entries]
  refine List.rel_filter (fun managed e hs => ?_) h
  simp only [beq_iff_eq]
  exact title_eq_iff hs key

theorem Represents.lookup_none (h : v.Represents scope m) (hk : m.find? key = none) :
    v.lookup scope key = .error .keyNotFound := by
  have hm := h.matches key
  rw [hk] at hm
  exact Scope.findByKey_eq_keyNotFound_iff.mpr (List.forall₂_nil_right_iff.mp hm)

theorem Represents.lookup_some (h : v.Represents scope m) {e : Entry}
    (hk : m.find? key = some e) :
    ∃ managed, v.lookup scope key = .ok managed ∧ scope.Shows managed e := by
  have hm := h.matches key
  rw [hk] at hm
  obtain ⟨managed, rest, hs, hrest, heq⟩ := List.forall₂_cons_right_iff.mp hm
  obtain rfl := List.forall₂_nil_right_iff.mp hrest
  exact ⟨managed, Scope.findByKey_eq_ok_iff.mpr heq, hs⟩

theorem Represents.listKeys (h : v.Represents scope m) :
    scope.listKeys (v.managedItems scope) = .ok m.keys := by
  rw [Scope.listKeys_eq_ok_iff, h.titles]
  refine ⟨m.distinct.map scope.encodeTitle_injective, ?_⟩
  rw [List.map_map]
  conv_lhs => rw [← List.map_id m.keys]
  apply List.map_congr_left
  intro key _
  simp

end Lookup

section Writes

variable {v' : MemoryVault} {found : ManagedItem}

theorem own?_of_place (hd : v.Distinct) (hl : v.lookup scope key = .ok found) {i : VaultItem}
    (hi : i ∈ v.items) (hp : place i = (scope.vaultId, found.id)) : scope.own? i = some found := by
  obtain ⟨item, hmem, ho, _⟩ := stored_of_lookup hl
  have hdesc := Scope.describes_of_own? ho
  have hplace : place item = (scope.vaultId, found.id) := by rw [place, hdesc.vaultId, hdesc.id]
  obtain rfl : i = item := hd.eq_of_place hi hmem (hp.trans hplace.symm)
  exact ho

/-- Among the managed items, the one that is found is told by its title as well as by its place. -/
theorem place_iff_title (hd : v.Distinct) (hl : v.lookup scope key = .ok found) {i : VaultItem}
    (hi : i ∈ v.items) {managed : ManagedItem} (ho : scope.own? i = some managed) :
    place i = (scope.vaultId, found.id) ↔ managed.title = scope.encodeTitle key := by
  constructor
  · intro hp
    have hfound := own?_of_place hd hl hi hp
    obtain rfl : managed = found := Option.some.inj (ho.symm.trans hfound)
    exact (Scope.mem_of_findByKey hl).2
  · intro ht
    have hmem : managed ∈ (v.managedItems scope).filter (·.title == scope.encodeTitle key) :=
      List.mem_filter.mpr ⟨List.mem_filterMap.mpr ⟨i, hi, ho⟩, by simpa using ht⟩
    rw [Scope.findByKey_eq_ok_iff.mp hl] at hmem
    obtain rfl := List.mem_singleton.mp hmem
    have hdesc := Scope.describes_of_own? ho
    rw [place, hdesc.vaultId, hdesc.id]

theorem managedItems_rewrite (hd : v.Distinct) (hl : v.lookup scope key = .ok found)
    {item : VaultItem} {managed : ManagedItem} (ho : scope.own? item = some managed)
    (hp : place item = (scope.vaultId, found.id)) (hi : v'.items = rewrite item v.items) :
    v'.managedItems scope =
      (v.managedItems scope).map fun old =>
        if old.title = scope.encodeTitle key then managed else old := by
  unfold managedItems rewrite at *
  rw [hi, List.filterMap_map, List.map_filterMap]
  apply List.filterMap_congr
  intro i hmem
  simp only [Function.comp_apply, hp]
  cases hown : scope.own? i with
  | none =>
    have hne : place i ≠ (scope.vaultId, found.id) := by
      intro h
      have hsome := own?_of_place hd hl hmem h
      rw [hown] at hsome
      cases hsome
    rw [if_neg hne, hown]
    rfl
  | some old =>
    rw [Option.map_some]
    by_cases ht : old.title = scope.encodeTitle key
    · rw [if_pos ((place_iff_title hd hl hmem hown).mpr ht), if_pos ht, ho]
    · rw [if_neg fun h => ht ((place_iff_title hd hl hmem hown).mp h), if_neg ht, hown]

theorem managedItems_delete (hd : v.Distinct) (hl : v.lookup scope key = .ok found)
    (hi : v'.items = v.items.filter (!isAt scope.vaultId found.id ·)) :
    v'.managedItems scope =
      (v.managedItems scope).filter fun old => !(old.title == scope.encodeTitle key) := by
  unfold managedItems at *
  rw [hi, List.filterMap_filter, List.filter_filterMap]
  apply List.filterMap_congr
  intro i hmem
  cases hown : scope.own? i with
  | none => simp
  | some old =>
    have hiff : isAt scope.vaultId found.id i = (old.title == scope.encodeTitle key) := by
      rw [Bool.eq_iff_iff, isAt_iff, beq_iff_eq]
      exact place_iff_title hd hl hmem hown
    rw [hiff, Option.filter_some]

theorem managedItems_append {item : VaultItem} {managed : ManagedItem}
    (ho : scope.own? item = some managed) (hi : v'.items = v.items ++ [item]) :
    v'.managedItems scope = v.managedItems scope ++ [managed] := by
  unfold managedItems
  rw [hi, List.filterMap_append, List.filterMap_cons_some ho, List.filterMap_nil]

theorem Represents.append (h : v.Represents scope m) {e : Entry} {managed : ManagedItem}
    (hf : m.find? e.key = none) (hs : scope.Shows managed e)
    (hv : v'.managedItems scope = v.managedItems scope ++ [managed]) :
    v'.Represents scope (m.insert e) := by
  unfold Represents
  rw [hv, OrderedMap.insert_of_find?_none hf]
  exact List.rel_append h (.cons hs .nil)

theorem Represents.replace (h : v.Represents scope m) {e old : Entry} {managed : ManagedItem}
    (hf : m.find? e.key = some old) (hs : scope.Shows managed e)
    (hv : v'.managedItems scope = (v.managedItems scope).map fun other =>
      if other.title = scope.encodeTitle e.key then managed else other) :
    v'.Represents scope (m.insert e) := by
  unfold Represents
  rw [hv, OrderedMap.insert_of_find?_some hf, List.forall₂_map_left_iff,
    List.forall₂_map_right_iff]
  refine List.Forall₂.imp (fun other entry ho => ?_) h
  by_cases hk : entry.key = e.key
  · rw [if_pos ((title_eq_iff ho _).mpr hk), if_pos hk]
    exact hs
  · rw [if_neg fun ht => hk ((title_eq_iff ho _).mp ht), if_neg hk]
    exact ho

theorem Represents.erase (h : v.Represents scope m)
    (hv : v'.managedItems scope =
      (v.managedItems scope).filter fun other => !(other.title == scope.encodeTitle key)) :
    v'.Represents scope (m.erase key) := by
  unfold Represents
  rw [hv]
  refine List.rel_filter (fun other entry ho => ?_) h
  simp only [Bool.not_eq_eq_eq_not, Bool.not_true, beq_eq_false_iff_ne, ne_eq, title_eq_iff ho]

end Writes

end MemoryVault

namespace Scope

variable {scope : Scope} {item : VaultItem} {m : ManagedItem}

theorem own?_created (scope : Scope) (drawn : Nat) (now : Timestamp) (title value : String) :
    scope.own? (scope.created drawn now title value) =
      some (managedOf (scope.created drawn now title value)
        ⟨MemoryVault.idText (drawn + 2), scope.fieldTitle, .concealed, value⟩) :=
  (own?_single rfl rfl rfl rfl).mpr ⟨rfl, List.mem_singleton_self _, rfl, rfl⟩

theorem own?_written (t : Transport) (drawn : Nat) (now : Timestamp) (value : String)
    (h : scope.own? item = some m) :
    scope.own? (t.written scope drawn (m.revalued now value)) =
      some (managedOf (t.written scope drawn (m.revalued now value))
        (MemoryVault.withId drawn (m.revalued now value).field)) := by
  have hd := describes_of_own? h
  have htag : scope.tag ∈ t.writtenTags scope m := by
    cases t with
    | standard backend limit | lazy slot backend auth limit =>
      exact (hd.tags ▸ hd.tagged : scope.tag ∈ m.tags)
    | connect client => exact List.mem_singleton_self _
  have hconcealed : (MemoryVault.withId drawn (m.revalued now value).field).type = .concealed :=
    (MemoryVault.withId_type _ _).trans hd.concealed
  exact (own?_single rfl rfl rfl hconcealed).mpr
    ⟨rfl, htag, (MemoryVault.withId_title _ _).trans hd.fieldTitle, rfl⟩

theorem decode_write (item : Item) : Keyring.decode (Payload.write item) = .ok item :=
  congrArg (Except.mapError _) (Payload.read_write item)

theorem shows_created (scope : Scope) (drawn : Nat) (now : Timestamp) {item : Item} {value : String}
    (hv : Keyring.decode value = .ok item) :
    scope.Shows
      (managedOf (scope.created drawn now (scope.encodeTitle item.key) value)
        ⟨MemoryVault.idText (drawn + 2), scope.fieldTitle, .concealed, value⟩)
      ⟨item, some now⟩ :=
  ⟨rfl, hv, rfl⟩

theorem shows_written (t : Transport) (drawn : Nat) (now : Timestamp) {item : Item} {value : String}
    (ht : m.title = scope.encodeTitle item.key) (hv : Keyring.decode value = .ok item) :
    scope.Shows
      (managedOf (t.written scope drawn (m.revalued now value))
        (MemoryVault.withId drawn (m.revalued now value).field))
      ⟨item, some now⟩ := by
  refine ⟨ht, ?_, rfl⟩
  change Keyring.decode (MemoryVault.withId drawn _).value = _
  rw [MemoryVault.withId_value]
  exact hv

end Scope

end VaultRing
