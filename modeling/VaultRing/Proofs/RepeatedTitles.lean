import Mathlib.Data.List.Forall2
import VaultRing.Proofs.KeyTitles

namespace VaultRing

def IsSecondPlace (titles : List String) (title : String) (place : Nat) : Prop :=
  titles[place]? = some title ∧ (titles.take place).count title = 1

/-- What is reported are the titles that occur twice or more, each once, in the order of their
second occurrences. -/
structure Repetitions (titles reported : List String) : Prop where
  mem_iff : ∀ title, title ∈ reported ↔ 2 ≤ titles.count title
  nodup : reported.Nodup
  inOrder : ∃ places : List Nat,
    places.Pairwise (· < ·) ∧ List.Forall₂ (IsSecondPlace titles) reported places

section Places

variable {titles : List String} {title : String} {place : Nat}

theorem IsSecondPlace.lt_length (h : IsSecondPlace titles title place) : place < titles.length :=
  (List.getElem?_eq_some_iff.mp h.1).1

theorem IsSecondPlace.append (h : IsSecondPlace titles title place) (others : List String) :
    IsSecondPlace (titles ++ others) title place := by
  have hlt := h.lt_length
  constructor
  · rw [List.getElem?_append_left hlt]
    exact h.1
  · rw [List.take_append_of_le_length (Nat.le_of_lt hlt)]
    exact h.2

theorem lt_length_of_secondPlaces {reported : List String} {places : List Nat}
    (h : List.Forall₂ (IsSecondPlace titles) reported places) :
    ∀ p ∈ places, p < titles.length := by
  induction h with
  | nil => exact fun _ hp => absurd hp List.not_mem_nil
  | cons hplace _ ih => exact List.forall_mem_cons.mpr ⟨hplace.lt_length, ih⟩

theorem isSecondPlace_length (h : titles.count title = 1) :
    IsSecondPlace (titles ++ [title]) title titles.length := by
  constructor
  · simp
  · rw [List.take_append_of_le_length (Nat.le_refl _), List.take_length]
    exact h

end Places

namespace Repetitions

variable {titles reported : List String} {title : String}

theorem nil : Repetitions [] [] where
  mem_iff := by simp
  nodup := List.nodup_nil
  inOrder := ⟨[], .nil, .nil⟩

/-- A title that is new, or has been reported already, adds nothing to the report. -/
theorem append_same (h : Repetitions titles reported)
    (hr : title ∈ titles → title ∈ reported) : Repetitions (titles ++ [title]) reported where
  mem_iff := by
    intro t
    rw [h.mem_iff, List.count_append, List.count_singleton]
    by_cases ht : title = t
    · subst ht
      by_cases hmem : title ∈ titles
      · have := (h.mem_iff title).mp (hr hmem)
        simp only [beq_self_eq_true, ↓reduceIte]
        omega
      · simp [List.count_eq_zero_of_not_mem hmem]
    · simp [ht]
  nodup := h.nodup
  inOrder := by
    obtain ⟨places, hlt, hplaces⟩ := h.inOrder
    exact ⟨places, hlt, hplaces.imp fun _ _ hp => hp.append [title]⟩

/-- A title is reported where it is seen for the second time. -/
theorem append_new (h : Repetitions titles reported) (hs : title ∈ titles)
    (hr : title ∉ reported) : Repetitions (titles ++ [title]) (reported ++ [title]) where
  mem_iff := by
    have hpos := List.count_pos_iff.mpr hs
    intro t
    rw [List.mem_append, List.mem_singleton, h.mem_iff, List.count_append, List.count_singleton]
    by_cases ht : title = t
    · subst ht
      simp only [beq_self_eq_true, ↓reduceIte, or_true, true_iff]
      omega
    · simp [ht, Ne.symm ht]
  nodup := by
    rw [List.nodup_append]
    refine ⟨h.nodup, List.nodup_singleton title, ?_⟩
    rintro a ha b hb rfl
    exact hr (List.mem_singleton.mp hb ▸ ha)
  inOrder := by
    have hone : titles.count title = 1 := by
      have hpos := List.count_pos_iff.mpr hs
      have hlt : ¬ 2 ≤ titles.count title := fun hc => hr ((h.mem_iff title).mpr hc)
      omega
    obtain ⟨places, hlt, hplaces⟩ := h.inOrder
    refine ⟨places ++ [titles.length], ?_, ?_⟩
    · rw [List.pairwise_append]
      refine ⟨hlt, List.pairwise_singleton _ _, fun p hp q hq => ?_⟩
      rw [List.mem_singleton.mp hq]
      exact lt_length_of_secondPlaces hplaces p hp
    · exact List.rel_append (hplaces.imp fun _ _ hp => hp.append [title])
        (.cons (isSecondPlace_length hone) .nil)

end Repetitions

namespace Scope

theorem collectTitles_repetitions {passed seen reported : List String}
    (hseen : ∀ title, title ∈ seen ↔ title ∈ passed) (h : Repetitions passed reported)
    (titles : List String) :
    Repetitions (passed ++ titles) (collectTitles seen reported titles).2 := by
  induction titles generalizing passed seen reported with
  | nil => simpa [collectTitles] using h
  | cons title titles ih =>
    have hpassed : passed ++ title :: titles = (passed ++ [title]) ++ titles := by simp
    rw [hpassed, collectTitles]
    by_cases ht : title ∈ seen
    · have hall : ∀ t, t ∈ seen ↔ t ∈ passed ++ [title] := by
        intro t
        rw [List.mem_append, List.mem_singleton, ← hseen]
        exact ⟨.inl, fun h => h.elim id fun ht' => ht' ▸ ht⟩
      rw [if_pos (List.contains_iff_mem.mpr ht)]
      by_cases hr : title ∈ reported
      · rw [if_pos (List.contains_iff_mem.mpr hr)]
        exact ih hall (h.append_same fun _ => hr)
      · rw [if_neg (by simpa using hr)]
        exact ih hall (h.append_new ((hseen title).mp ht) hr)
    · have hall : ∀ t, t ∈ seen ++ [title] ↔ t ∈ passed ++ [title] := by
        intro t
        rw [List.mem_append, List.mem_append, hseen]
      rw [if_neg (by simpa using ht)]
      exact ih hall (h.append_same fun hp => absurd ((hseen title).mpr hp) ht)

section Listing

variable {scope : Scope} {items : List ManagedItem} {key : String}

/-- Where a title is repeated, the report is not empty, and it is all that the listing gives. -/
theorem listKeys_of_not_nodup (scope : Scope) (h : ¬ (items.map (·.title)).Nodup) :
    ∃ reported, scope.listKeys items = .error (.duplicateTitles reported scope.vaultId) ∧
      Repetitions (items.map (·.title)) reported := by
  have hnone (t : String) : t ∈ [] ↔ t ∈ [] := Iff.rfl
  exact ⟨_, scope.listKeys_of_repeated h, collectTitles_repetitions hnone .nil _⟩

theorem length_filter_title (items : List ManagedItem) (title : String) :
    (items.filter (·.title == title)).length = (items.map (·.title)).count title := by
  rw [← List.countP_eq_length_filter, List.count, List.countP_map]
  rfl

theorem findByKey_eq_ambiguous_iff {count : Nat} {title vaultId : String} :
    scope.findByKey items key = .error (.ambiguous count title vaultId) ↔
      2 ≤ (items.map (·.title)).count (scope.encodeTitle key) ∧
        count = (items.map (·.title)).count (scope.encodeTitle key) ∧
        title = scope.encodeTitle key ∧ vaultId = scope.vaultId := by
  rw [← length_filter_title]
  by_cases htwo : 2 ≤ (items.filter (·.title == scope.encodeTitle key)).length
  · rw [findByKey_of_two_le htwo]
    simp only [Except.error.injEq, KeyringError.ambiguous.injEq, htwo, true_and]
    exact ⟨fun ⟨h₁, h₂, h₃⟩ => ⟨h₁.symm, h₂.symm, h₃.symm⟩,
      fun ⟨h₁, h₂, h₃⟩ => ⟨h₁.symm, h₂.symm, h₃.symm⟩⟩
  · refine iff_of_false (fun h => ?_) fun h => htwo h.1
    rcases hf : items.filter (·.title == scope.encodeTitle key) with _ | ⟨m, _ | ⟨n, rest⟩⟩
    · rw [findByKey_eq_keyNotFound_iff.mpr hf] at h
      cases h
    · rw [findByKey_eq_ok_iff.mpr hf] at h
      cases h
    · rw [hf] at htwo
      exact htwo (by simp)

/-- A report names the title of a key if and only if the key leads to several items. -/
theorem reported_iff_ambiguous :
    (∃ reported, scope.listKeys items = .error (.duplicateTitles reported scope.vaultId) ∧
        scope.encodeTitle key ∈ reported) ↔
      scope.findByKey items key =
        .error (.ambiguous ((items.map (·.title)).count (scope.encodeTitle key))
          (scope.encodeTitle key) scope.vaultId) := by
  rw [findByKey_eq_ambiguous_iff]
  constructor
  · rintro ⟨reported, hl, hmem⟩
    have hn : ¬ (items.map (·.title)).Nodup := by
      intro hn
      rw [listKeys_of_nodup hn] at hl
      cases hl
    obtain ⟨other, hother, hrep⟩ := scope.listKeys_of_not_nodup hn
    rw [hl] at hother
    cases hother
    exact ⟨(hrep.mem_iff _).mp hmem, rfl, rfl, rfl⟩
  · rintro ⟨htwo, -⟩
    have hn : ¬ (items.map (·.title)).Nodup := by
      intro hn
      have := List.nodup_iff_count_le_one.mp hn (scope.encodeTitle key)
      omega
    obtain ⟨reported, hl, hrep⟩ := scope.listKeys_of_not_nodup hn
    exact ⟨reported, hl, (hrep.mem_iff _).mpr htwo⟩

end Listing

end Scope

/-- The keys of items with distinct titles are listed in order; else the repeated titles are
reported. A title is among them if and only if its key leads to several items, as many as have the
title. -/
theorem listing_reports_repetitions (scope : Scope) (items : List ManagedItem) :
    ((items.map (·.title)).Nodup →
      scope.listKeys items = .ok (items.map fun m => scope.decodeTitle m.title)) ∧
    (¬ (items.map (·.title)).Nodup →
      ∃ reported, scope.listKeys items = .error (.duplicateTitles reported scope.vaultId) ∧
        Repetitions (items.map (·.title)) reported) ∧
    ∀ key,
      ((∃ reported, scope.listKeys items = .error (.duplicateTitles reported scope.vaultId) ∧
          scope.encodeTitle key ∈ reported) ↔
        ∃ count title vaultId,
          scope.findByKey items key = .error (.ambiguous count title vaultId)) ∧
      ∀ count title vaultId,
        scope.findByKey items key = .error (.ambiguous count title vaultId) →
          count = (items.map (·.title)).count (scope.encodeTitle key) ∧
            title = scope.encodeTitle key ∧ vaultId = scope.vaultId := by
  refine ⟨fun hn => ?_, scope.listKeys_of_not_nodup,
    fun key => ⟨?_, fun count title vaultId h => ?_⟩⟩
  · rw [Scope.listKeys_of_nodup hn, List.map_map]
    rfl
  · rw [Scope.reported_iff_ambiguous]
    constructor
    · exact fun h => ⟨_, _, _, h⟩
    · rintro ⟨count, title, vaultId, h⟩
      obtain ⟨-, rfl, rfl, rfl⟩ := Scope.findByKey_eq_ambiguous_iff.mp h
      exact h
  · exact (Scope.findByKey_eq_ambiguous_iff.mp h).2

section Interleaved

def interleavedItems (keys : List String) : List ManagedItem :=
  keys.map fun key =>
    ⟨key, Scope.sample.encodeTitle key, "v", ["keyring"], ⟨"f", "keyring", .concealed, ""⟩,
      none⟩

/-- Of two titles that come three times and twice, the one whose second item comes first is reported
first, though it was seen last. -/
theorem interleaved_titles_reported :
    (Scope.sample.listKeys (interleavedItems ["a", "b", "b", "c", "a", "b"]) =
        .error (.duplicateTitles ["kr: b", "kr: a"] "v") ∧
      Repetitions ((interleavedItems ["a", "b", "b", "c", "a", "b"]).map (·.title))
        ["kr: b", "kr: a"]) ∧
    Scope.sample.listKeys (interleavedItems ["b", "a"]) = .ok ["b", "a"] := by
  refine ⟨?_, ?_⟩
  · have hl : Scope.sample.listKeys (interleavedItems ["a", "b", "b", "c", "a", "b"]) =
        .error (.duplicateTitles ["kr: b", "kr: a"] "v") := by decide
    obtain ⟨reported, hr, hrep⟩ := (listing_reports_repetitions Scope.sample
      (interleavedItems ["a", "b", "b", "c", "a", "b"])).2.1 (by decide)
    rw [hl] at hr
    cases hr
    exact ⟨hl, hrep⟩
  · exact (listing_reports_repetitions Scope.sample (interleavedItems ["b", "a"])).1 (by decide)

end Interleaved

end VaultRing
