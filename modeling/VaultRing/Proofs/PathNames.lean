import Mathlib.Data.List.DropRight
import VaultRing.Proofs.PercentText
import VaultRing.Url

namespace VaultRing.Url

def names (u : Url) : List Bytes := ((pathText u.path).splitOn '/').tail.map percentDecode

def ownNames (u : Url) : List Bytes := u.names.rdropWhile List.isEmpty

/-- A name that stands in a path as it was given. -/
structure Kept (name : String) : Prop where
  not_dot : name ≠ "."
  not_two_dots : name ≠ ".."
  whole : ∀ c ∈ name.toList, isLineBreakOrTab c = false

def EndsOnce (path : List Segment) : Prop := ∀ s, ¬ [s, [], []] <:+ path

def Parted (path : List Segment) : Prop := ∀ s ∈ path, '/' ∉ s

/-- What names are added to: all of a path but for an empty segment at its end. -/
def front (path : List Segment) : List Segment :=
  if dropEmptyEnd path = [[]] then [] else dropEmptyEnd path

variable {path done rest : List Segment} {s : Segment} {cs : List Char} {name : String}

section Parts

theorem intercalate_eq_pathText (path : List Segment) :
    ['/'].intercalate ([] :: path) = pathText path := by
  induction path with
  | nil => rfl
  | cons s path ih =>
    cases path with
    | nil => simp [pathText, List.intercalate]
    | cons t path =>
      simp only [pathText, List.intercalate, List.intersperse, List.flatten_cons,
        List.flatMap_cons, List.nil_append, List.cons_append] at ih ⊢
      rw [ih]

theorem parted_cons (hs : '/' ∉ s) (h : Parted done) : Parted (s :: done) := by
  rintro t (_ | ⟨_, ht⟩)
  · exact hs
  · exact h t ht

theorem Parted.names_eq {u : Url} (h : Parted u.path) : u.names = u.path.map percentDecode := by
  have hparts : ∀ s ∈ [] :: u.path, '/' ∉ s := parted_cons List.not_mem_nil h
  rw [names, ← intercalate_eq_pathText, List.splitOn_intercalate '/' hparts (List.cons_ne_nil _ _),
    List.tail_cons]

theorem Parted.ownNames_eq {u : Url} (h : Parted u.path) :
    u.ownNames = (u.path.rdropWhile List.isEmpty).map percentDecode := by
  have hempty : List.isEmpty ∘ percentDecode = List.isEmpty := by
    funext s
    rw [Function.comp_apply, Bool.eq_iff_iff, List.isEmpty_iff, List.isEmpty_iff,
      percentDecode_eq_nil_iff]
  rw [ownNames, h.names_eq, List.rdropWhile, List.rdropWhile, ← List.map_reverse,
    List.dropWhile_map, hempty, List.map_reverse]

theorem parted_toParent (h : Parted done) : Parted (toParent done) := by
  cases done with
  | nil => exact h
  | cons s done =>
    by_cases hs : isDriveLetter s = true
    · rwa [toParent, if_pos hs]
    · rw [toParent, if_neg hs]
      exact fun t ht => h t (List.mem_cons_of_mem s ht)

theorem parted_walk (hdone : Parted done) (hrest : Parted rest) : Parted (walk done rest) := by
  have hempty : '/' ∉ ([] : Segment) := List.not_mem_nil
  fun_induction walk done rest with
  | case1 done => exact parted_cons hempty hdone
  | case2 done s => exact parted_cons (hrest s (by simp)) hdone
  | case3 done s => exact parted_cons hempty hdone
  | case4 done s => exact parted_cons hempty (parted_toParent hdone)
  | case5 done s rest _ _ ih =>
    exact ih (parted_cons (hrest s (by simp)) hdone) fun t ht => hrest t (by simp [ht])
  | case6 done s rest _ _ ih => exact ih hdone fun t ht => hrest t (by simp [ht])
  | case7 done s rest _ _ ih => exact ih (parted_toParent hdone) fun t ht => hrest t (by simp [ht])

theorem parted_reverse (h : Parted path) : Parted path.reverse :=
  fun s hs => h s (List.mem_reverse.mp hs)

theorem parted_splitSegments (cs : List Char) : Parted (splitSegments cs) := by
  induction cs with
  | nil => simp [Parted, splitSegments]
  | cons c cs ih =>
    unfold splitSegments
    split
    · exact parted_cons List.not_mem_nil ih
    · rename_i hc
      have hslash : '/' ≠ c := fun h => hc (.inl h.symm)
      split
      · rename_i s segments hsplit
        rw [hsplit] at ih
        have hs : '/' ∉ s := ih s (by simp)
        exact parted_cons (by simp [hslash, hs]) fun t ht => ih t (by simp [ht])
      · exact parted_cons (by simp [hslash]) fun t ht => absurd ht List.not_mem_nil

theorem parted_pathOf (cs : List Char) : Parted (pathOf cs) := by
  refine parted_reverse (parted_walk (fun _ h => absurd h List.not_mem_nil) ?_)
  intro s hs
  obtain ⟨t, ht, rfl⟩ := List.mem_map.mp hs
  exact slash_notMem_encode fun h => absurd h (parted_splitSegments _ t ht)

theorem parted_pushSegment (h : Parted path) (name : String) : Parted (pushSegment path name) := by
  unfold pushSegment
  dsimp only
  split
  · exact h
  · refine parted_reverse (parted_walk ?_ (parted_cons ?_ fun _ h => absurd h List.not_mem_nil))
    · split
      · exact fun _ h => absurd h List.not_mem_nil
      · exact parted_reverse h
    · exact slash_notMem_encode fun _ => rfl

theorem parted_dropEmptyEnd (h : Parted path) : Parted (dropEmptyEnd path) := by
  unfold dropEmptyEnd
  split
  · rename_i s done hpath
    refine parted_reverse fun t ht => h t ?_
    rw [← List.mem_reverse, hpath]
    exact List.mem_cons_of_mem [] ht
  · exact h

theorem parted_push {u : Url} (h : Parted u.path) (given : List String) :
    Parted (u.push given).path := by
  have hfold : ∀ path, Parted path → Parted (given.foldl pushSegment path) := by
    induction given with
    | nil => exact fun _ h => h
    | cons name given ih => exact fun path h => ih _ (parted_pushSegment h name)
  exact hfold _ (parted_dropEmptyEnd h)

end Parts

section Front

theorem concat_ne_empty (hs : s ≠ []) : done ++ [s] ≠ [[]] := by
  intro h
  have hlast : [s] = [([] : Segment)] :=
    List.append_inj_right' (show done ++ [s] = [] ++ [[]] from h) rfl
  exact hs (List.singleton_inj.mp hlast)

theorem front_concat (hs : s ≠ []) : front (done ++ [s]) = done ++ [s] := by
  have hend : dropEmptyEnd (done ++ [s]) = done ++ [s] := by
    unfold dropEmptyEnd
    rw [List.reverse_append, List.reverse_singleton, List.singleton_append]
    cases s with
    | nil => exact absurd rfl hs
    | cons c cs => rfl
  rw [front, hend, if_neg (concat_ne_empty hs)]

theorem front_empty (done : List Segment) (s : Segment) :
    front (done ++ [s] ++ [[]]) = if done ++ [s] = [[]] then [] else done ++ [s] := by
  have hend : dropEmptyEnd (done ++ [s] ++ [[]]) = done ++ [s] := by simp [dropEmptyEnd]
  rw [front, hend]

/-- An empty segment at the end is left out, and so is all of a path that has only empty ones, up to
two of them. -/
theorem front_cases (path : List Segment) :
    (front path = path ∧ ∀ init, path ≠ init ++ [[]]) ∨
      (front path = [] ∧ (path = [[]] ∨ path = [[], []])) ∨
      (path = front path ++ [[]] ∧ front path ≠ [] ∧ front path ≠ [[]]) := by
  rcases List.eq_nil_or_concat path with rfl | ⟨done, s, rfl⟩
  · exact .inl ⟨rfl, fun init h => by simp at h⟩
  rw [List.concat_eq_append]
  by_cases hs : s = []
  · subst hs
    right
    rcases List.eq_nil_or_concat done with rfl | ⟨done, t, rfl⟩
    · exact .inl ⟨rfl, .inl rfl⟩
    rw [List.concat_eq_append, front_empty]
    split
    · rename_i h
      exact .inl ⟨rfl, .inr (by rw [h]; rfl)⟩
    · rename_i h
      exact .inr ⟨rfl, by simp, h⟩
  · refine .inl ⟨front_concat hs, fun init h => hs ?_⟩
    exact List.singleton_inj.mp (List.append_inj_right' h rfl)

theorem rdropWhile_front (path : List Segment) :
    (front path).rdropWhile List.isEmpty = path.rdropWhile List.isEmpty := by
  rcases front_cases path with ⟨h, -⟩ | ⟨h, rfl | rfl⟩ | ⟨h, -, -⟩
  · rw [h]
  · rw [h]
    rfl
  · rw [h]
    rfl
  · conv_rhs => rw [h, List.rdropWhile_concat_pos _ _ _ rfl]

theorem endsOnce_iff : EndsOnce path ↔ ∀ init, front path ≠ init ++ [[]] := by
  constructor
  · intro honce init hfront
    rcases front_cases path with ⟨h, hend⟩ | ⟨h, -⟩ | ⟨h, -, hne⟩
    · exact hend init (h ▸ hfront)
    · simp [h] at hfront
    · rw [hfront] at h hne
      rcases List.eq_nil_or_concat init with rfl | ⟨init, s, rfl⟩
      · exact hne rfl
      · exact honce s ⟨init, by rw [h]; simp⟩
  · rintro hfront s ⟨init, rfl⟩
    have hend : init ++ [s, [], []] = init ++ [s] ++ [[]] ++ [[]] := by simp
    have hne : init ++ [s] ++ [[]] ≠ [[]] := fun h => by simpa using congrArg List.length h
    refine hfront (init ++ [s]) ?_
    rw [hend, front_empty, if_neg hne]

theorem EndsOnce.front_eq (h : EndsOnce path) : front path = path.rdropWhile List.isEmpty := by
  rw [← rdropWhile_front]
  symm
  rw [List.rdropWhile_eq_self_iff]
  intro hne hlast
  refine endsOnce_iff.mp h (front path).dropLast ?_
  rw [← List.isEmpty_iff.mp hlast, List.dropLast_append_getLast hne]

theorem exists_front_of_not_endsOnce (h : ¬ EndsOnce path) :
    ∃ empties, front path = path.rdropWhile List.isEmpty ++ [] :: empties := by
  obtain ⟨init, hfront⟩ : ∃ init, front path = init ++ [[]] := by
    simpa [endsOnce_iff] using h
  obtain ⟨s, empties, htake⟩ :
      ∃ s empties, (front path).rtakeWhile List.isEmpty = s :: empties := by
    apply List.exists_cons_of_ne_nil
    rw [hfront, List.rtakeWhile_concat_pos _ _ _ rfl]
    simp
  have hs : s = [] := List.isEmpty_iff.mp (List.mem_rtakeWhile_imp (htake ▸ List.mem_cons_self))
  refine ⟨empties, ?_⟩
  rw [← rdropWhile_front, ← hs, ← htake, List.rdropWhile_append_rtakeWhile]

end Front

section Pushing

theorem walk_plain (h : segmentKind s = .plain) : walk done [s] = s :: done := by
  simp [walk, h]

theorem walk_same (h : segmentKind s = .same) : walk done [s] = [] :: done := by
  simp [walk, h]

theorem walk_parent (h : segmentKind s = .parent) : walk done [s] = [] :: toParent done := by
  simp [walk, h]

theorem segmentKind_encode (cs : List Char) :
    segmentKind (Part.segment.encode cs) =
      if cs = ['.', '.'] then .parent else if cs = ['.'] then .same else .plain := by
  simp only [segmentKind, isTwoDots_encode_iff, isDot_encode_iff]

theorem toList_eq_dot : name.toList = ['.'] ↔ name = "." :=
  show name.toList = ".".toList ↔ _ from String.toList_inj

theorem toList_eq_two_dots : name.toList = ['.', '.'] ↔ name = ".." :=
  show name.toList = "..".toList ↔ _ from String.toList_inj

def segmentOf (name : String) : Segment := Part.segment.encode name.toList

theorem percentDecode_segmentOf (name : String) : percentDecode (segmentOf name) = textBytes name :=
  percentDecode_encode name.toList

def legible (name : String) : List Char := name.toList.filter (!isLineBreakOrTab ·)

theorem kept_iff : Kept name ↔ name ≠ "." ∧ name ≠ ".." ∧ legible name = name.toList := by
  have hwhole : legible name = name.toList ↔ ∀ c ∈ name.toList, isLineBreakOrTab c = false := by
    simp [legible, List.filter_eq_self]
  rw [hwhole]
  exact ⟨fun ⟨h, h', h''⟩ => ⟨h, h', h''⟩, fun ⟨h, h', h''⟩ => ⟨h, h', h''⟩⟩

instance : Decidable (Kept name) := decidable_of_iff _ kept_iff.symm

theorem pushSegment_dots (h : name = "." ∨ name = "..") (path : List Segment) :
    pushSegment path name = path := by
  refine if_pos ?_
  rcases h with rfl | rfl
  · exact .inl rfl
  · exact .inr rfl

theorem pushSegment_other (hdot : name ≠ ".") (hdots : name ≠ "..") (path : List Segment) :
    pushSegment path name = (walk (if path = [[]] then [] else path.reverse)
      [Part.segment.encode (legible name)]).reverse := by
  refine if_neg ?_
  rw [toList_eq_dot, toList_eq_two_dots]
  exact not_or.mpr ⟨hdot, hdots⟩

theorem pushSegment_kept (h : Kept name) (path : List Segment) :
    pushSegment path name = (if path = [[]] then [] else path) ++ [segmentOf name] := by
  obtain ⟨hdot, hdots, hlegible⟩ := kept_iff.mp h
  have hkind : segmentKind (Part.segment.encode name.toList) = .plain := by
    rw [segmentKind_encode, if_neg (by rwa [toList_eq_two_dots]), if_neg (by rwa [toList_eq_dot])]
  rw [pushSegment_other hdot hdots, hlegible, walk_plain hkind, List.reverse_cons,
    apply_ite List.reverse, List.reverse_reverse, List.reverse_nil, segmentOf]

theorem pushSegment_to (h : Kept name) (hs : s ≠ []) {before : List Segment}
    (hmem : s ∈ before) : pushSegment before name = before ++ [segmentOf name] := by
  have hne : before ≠ [[]] := by
    rintro rfl
    exact hs (List.mem_singleton.mp hmem)
  rw [pushSegment_kept h, if_neg hne]

/-- A name that is added to a path touches no segment before the last one. The last one and the name
are what the path then ends in if and only if the name is kept. -/
theorem pushSegment_last {before : List Segment} (hs : isDriveLetter s = false)
    (hne : before ++ [s] ≠ [[]]) (name : String) :
    ∃ tail, pushSegment (before ++ [s]) name = before ++ tail ∧ tail.length ≤ 2 ∧
      (tail.map percentDecode = [percentDecode s, textBytes name] ↔ Kept name) := by
  by_cases hname : name = "." ∨ name = ".."
  · refine ⟨[s], pushSegment_dots hname _, by simp, by simp, fun h => ?_⟩
    exact absurd hname (not_or.mpr ⟨h.not_dot, h.not_two_dots⟩)
  obtain ⟨hdot, hdots⟩ := not_or.mp hname
  have hpush := pushSegment_other hdot hdots (before ++ [s])
  have hkind := segmentKind_encode (legible name)
  rw [if_neg hne, List.reverse_append, List.reverse_singleton, List.singleton_append] at hpush
  by_cases htwo : legible name = ['.', '.']
  · rw [if_pos htwo] at hkind
    refine ⟨[[]], ?_, by simp, by simp, fun h => ?_⟩
    · rw [hpush, walk_parent hkind, toParent, if_neg (by simp [hs])]
      simp
    · exact absurd (toList_eq_two_dots.mp ((kept_iff.mp h).2.2.symm.trans htwo)) hdots
  rw [if_neg htwo] at hkind
  by_cases hone : legible name = ['.']
  · rw [if_pos hone] at hkind
    refine ⟨[s, []], ?_, by simp, fun h => ?_, fun h => ?_⟩
    · rw [hpush, walk_same hkind]
      simp
    · have hbytes : textBytes name = [] := by simpa [percentDecode] using h
      rw [textBytes_injective (show textBytes name = textBytes "" from hbytes)] at hone
      exact absurd hone (by decide)
    · exact absurd (toList_eq_dot.mp ((kept_iff.mp h).2.2.symm.trans hone)) hdot
  · rw [if_neg hone] at hkind
    refine ⟨[s, Part.segment.encode (legible name)], ?_, by simp, ?_⟩
    · rw [hpush, walk_plain hkind]
      simp
    · have hsame : (legible name).flatMap String.utf8EncodeChar = textBytes name ↔
          legible name = name.toList :=
        ⟨flatMap_utf8EncodeChar_injective, fun h => congrArg _ h⟩
      simp [percentDecode_encode, hsame, kept_iff, hdot, hdots]

end Pushing

end VaultRing.Url
