import VaultRing.Proofs.KeyringSession

namespace VaultRing

namespace Scope

/-- A title without the prefix; it is no key's. -/
def Bare (scope : Scope) (title : String) : Prop := ∀ key, title ≠ scope.encodeTitle key

section Titles

variable {scope : Scope} {title key : String}

theorem toList_encodeTitle (scope : Scope) (key : String) :
    (scope.encodeTitle key).toList =
      scope.titlePrefix.toList ++ (separator.toList ++ key.toList) := by
  simp [encodeTitle, List.append_assoc]

theorem encodeTitle_eq_iff {rest : List Char} :
    title = scope.encodeTitle (String.ofList rest) ↔
      (scope.titlePrefix ++ separator).toList ++ rest = title.toList := by
  rw [← String.toList_inj, toList_encodeTitle, String.toList_ofList, String.toList_append,
    List.append_assoc, eq_comm]

/-- A title is a key's if and only if it begins with the prefix and the separator. -/
theorem bare_iff :
    scope.Bare title ↔ ¬ (scope.titlePrefix ++ separator).toList <+: title.toList := by
  refine not_exists.symm.trans (not_congr ⟨?_, ?_⟩)
  · rintro ⟨key, rfl⟩
    exact ⟨key.toList, encodeTitle_eq_iff.mp (by rw [String.ofList_toList])⟩
  · rintro ⟨rest, hrest⟩
    exact ⟨String.ofList rest, encodeTitle_eq_iff.mpr hrest⟩

theorem exists_key_of_not_bare (h : ¬ scope.Bare title) : ∃ key, title = scope.encodeTitle key := by
  simpa [Bare] using h

theorem encodeTitle_injective (scope : Scope) : Function.Injective scope.encodeTitle := by
  intro a b h
  have hl := congrArg String.toList h
  rw [toList_encodeTitle, toList_encodeTitle] at hl
  exact String.toList_inj.mp (List.append_cancel_left (List.append_cancel_left hl))

@[simp] theorem decodeTitle_encodeTitle (scope : Scope) (key : String) :
    scope.decodeTitle (scope.encodeTitle key) = key := by
  have hprefix : scope.titlePrefix.toList.isPrefixOf? (scope.encodeTitle key).toList =
      some (separator.toList ++ key.toList) :=
    List.isPrefixOf?_eq_some_iff_append_eq.mpr (toList_encodeTitle scope key).symm
  have hsep : separator.toList.isPrefixOf? (separator.toList ++ key.toList) = some key.toList :=
    List.isPrefixOf?_eq_some_iff_append_eq.mpr rfl
  simp only [decodeTitle, hprefix, Option.bind_some, hsep, String.ofList_toList]

theorem decodeTitle_of_bare (h : scope.Bare title) : scope.decodeTitle title = title := by
  unfold decodeTitle
  dsimp only
  split
  · rename_i key hk
    obtain ⟨rest, hp, hs⟩ := Option.bind_eq_some_iff.mp hk
    have hrest := List.isPrefixOf?_eq_some_iff_append_eq.mp hp
    have hkey := List.isPrefixOf?_eq_some_iff_append_eq.mp hs
    have ht : title = scope.encodeTitle (String.ofList key) := by
      rw [encodeTitle_eq_iff, String.toList_append, List.append_assoc, hkey, hrest]
    exact absurd ht (h _)
  · rfl

/-- A title stands for its key, or for itself if it is no key's. -/
theorem decodeTitle_eq_iff :
    scope.decodeTitle title = key ↔
      title = scope.encodeTitle key ∨ scope.Bare title ∧ title = key := by
  constructor
  · rintro rfl
    by_cases hb : scope.Bare title
    · exact .inr ⟨hb, (decodeTitle_of_bare hb).symm⟩
    · obtain ⟨key, rfl⟩ := exists_key_of_not_bare hb
      rw [decodeTitle_encodeTitle]
      exact .inl rfl
  · rintro (rfl | ⟨hb, rfl⟩)
    · exact decodeTitle_encodeTitle scope key
    · exact decodeTitle_of_bare hb

theorem decodeTitle_eq_iff_of_bare (h : scope.Bare key) :
    scope.decodeTitle title = key ↔ title = scope.encodeTitle key ∨ title = key := by
  have hb : scope.Bare title ∧ title = key ↔ title = key :=
    ⟨fun ht => ht.2, fun ht => ⟨ht ▸ h, ht⟩⟩
  rw [decodeTitle_eq_iff, hb]

theorem decodeTitle_eq_iff_of_not_bare (h : ¬ scope.Bare key) :
    scope.decodeTitle title = key ↔ title = scope.encodeTitle key := by
  have hb : ¬ (scope.Bare title ∧ title = key) := fun ht => h (ht.2 ▸ ht.1)
  rw [decodeTitle_eq_iff, or_iff_left hb]

theorem encodeTitle_decodeTitle_iff :
    scope.encodeTitle (scope.decodeTitle title) = title ↔ ¬ scope.Bare title := by
  constructor
  · intro h hb
    exact hb _ h.symm
  · intro h
    obtain ⟨key, rfl⟩ := exists_key_of_not_bare h
    rw [decodeTitle_encodeTitle]

theorem ne_encodeTitle (scope : Scope) (key : String) : key ≠ scope.encodeTitle key := by
  intro h
  have hlength := congrArg (fun s => s.toList.length) h
  simp only [toList_encodeTitle, List.length_append] at hlength
  have hsep : separator.toList.length = 2 := rfl
  omega

theorem decodeTitle_eq_self_iff : scope.decodeTitle title = title ↔ scope.Bare title := by
  rw [decodeTitle_eq_iff]
  constructor
  · rintro (h | ⟨hb, -⟩)
    · exact absurd h (ne_encodeTitle scope title)
    · exact hb
  · exact fun h => .inr ⟨h, rfl⟩

end Titles

/-- Every key is read back from its title, whatever the prefix is. A title is that of the key that
is read from it if it begins with the prefix and the separator; else it is read as it is. -/
theorem keys_correspond_to_titles (scope : Scope) :
    (∀ key, scope.decodeTitle (scope.encodeTitle key) = key) ∧
      Function.Injective scope.encodeTitle ∧
      ∀ title,
        (scope.encodeTitle (scope.decodeTitle title) = title ↔
          (scope.titlePrefix ++ ": ").toList <+: title.toList) ∧
        (scope.decodeTitle title = title ↔
          ¬ (scope.titlePrefix ++ ": ").toList <+: title.toList) := by
  refine ⟨scope.decodeTitle_encodeTitle, scope.encodeTitle_injective, fun title => ⟨?_, ?_⟩⟩
  · rw [encodeTitle_decodeTitle_iff, bare_iff, not_not]
    rfl
  · rw [decodeTitle_eq_self_iff, bare_iff]
    rfl

/-- Where the prefix ends like the separator begins, the separator that belongs to the key stays. -/
example :
    let scope : Scope := ⟨"v", "kr: ", "keyring", "keyring"⟩
    scope.decodeTitle "kr: : : a" = ": a" ∧ scope.decodeTitle "kr: a" = "kr: a" := by
  decide

section Listing

variable {scope : Scope} {items : List ManagedItem} {keys : List String} {key : String}

theorem collectTitles_of_nodup {seen repeated titles : List String} (h : (seen ++ titles).Nodup) :
    collectTitles seen repeated titles = (seen ++ titles, repeated) := by
  induction titles generalizing seen with
  | nil => simp [collectTitles]
  | cons title titles ih =>
    have ht : title ∉ seen := fun hs => (List.nodup_append.mp h).2.2 title hs title (by simp) rfl
    rw [List.append_cons] at h ⊢
    rw [collectTitles, if_neg (by simpa using ht), ih h]

theorem collectTitles_snd_eq_nil_iff {seen repeated : List String} (hs : seen.Nodup)
    (titles : List String) :
    (collectTitles seen repeated titles).2 = [] ↔ repeated = [] ∧ (seen ++ titles).Nodup := by
  induction titles generalizing seen repeated with
  | nil => simp [collectTitles, hs]
  | cons title titles ih =>
    unfold collectTitles
    by_cases ht : title ∈ seen
    · have hdup : ¬ (seen ++ title :: titles).Nodup := by
        intro h
        exact (List.nodup_append.mp h).2.2 title ht title (by simp) rfl
      have hne : (if repeated.contains title then repeated else repeated ++ [title]) ≠ [] := by
        split
        · rename_i hr
          exact List.ne_nil_of_mem (List.contains_iff_mem.mp hr)
        · simp
      rw [if_pos (List.contains_iff_mem.mpr ht), ih hs]
      exact ⟨fun h => absurd h.1 hne, fun h => absurd h.2 hdup⟩
    · have hseen : (seen ++ [title]).Nodup := by
        rw [List.nodup_append]
        refine ⟨hs, List.nodup_singleton title, ?_⟩
        rintro a ha b hb rfl
        exact ht (List.mem_singleton.mp hb ▸ ha)
      rw [if_neg (by simpa using ht), ih hseen, List.append_assoc]
      rfl

theorem listKeys_of_nodup (h : (items.map (·.title)).Nodup) :
    scope.listKeys items = .ok ((items.map (·.title)).map scope.decodeTitle) := by
  have hcollect : collectTitles [] [] (items.map (·.title)) = (items.map (·.title), []) :=
    collectTitles_of_nodup h
  rw [listKeys, hcollect]
  rfl

theorem listKeys_of_repeated (scope : Scope) (h : ¬ (items.map (·.title)).Nodup) :
    scope.listKeys items =
      .error (.duplicateTitles (collectTitles [] [] (items.map (·.title))).2 scope.vaultId) := by
  have hne : (collectTitles [] [] (items.map (·.title))).2 ≠ [] := fun hnil =>
    h ((collectTitles_snd_eq_nil_iff List.nodup_nil _).mp hnil).2
  exact if_neg (by simpa using hne)

/-- Keys are listed only if no title is repeated, one for each item. -/
theorem listKeys_eq_ok_iff :
    scope.listKeys items = .ok keys ↔
      (items.map (·.title)).Nodup ∧ keys = (items.map (·.title)).map scope.decodeTitle := by
  by_cases h : (items.map (·.title)).Nodup
  · rw [listKeys_of_nodup h]
    simp [h, eq_comm]
  · rw [listKeys_of_repeated scope h]
    simp [h]

theorem findByKey_of_listKeys (h : scope.listKeys items = .ok keys) (key : String) :
    (∃ m, scope.findByKey items key = .ok m) ↔ scope.encodeTitle key ∈ items.map (·.title) := by
  constructor
  · rintro ⟨m, hm⟩
    obtain ⟨hmem, ht⟩ := mem_of_findByKey hm
    exact List.mem_map.mpr ⟨m, hmem, ht⟩
  · intro ht
    -- Titles are not repeated, so nothing but the item of the title is found.
    have hcount : (items.filter (·.title == scope.encodeTitle key)).length = 1 := by
      rw [← List.countP_eq_length_filter]
      have hone := List.count_eq_one_of_mem (listKeys_eq_ok_iff.mp h).1 ht
      rwa [List.count, List.countP_map] at hone
    obtain ⟨m, hm⟩ := List.length_eq_one_iff.mp hcount
    exact ⟨m, findByKey_eq_ok_iff.mpr hm⟩

/-- A key is listed for the item that it leads to, and for the item whose bare title it is. -/
theorem count_listKeys [Decidable (scope.Bare key)] (h : scope.listKeys items = .ok keys) :
    keys.count key =
      (items.map (·.title)).count (scope.encodeTitle key) +
        if scope.Bare key then (items.map (·.title)).count key else 0 := by
  rw [(listKeys_eq_ok_iff.mp h).2]
  induction items.map (·.title) with
  | nil => simp
  | cons title titles ih =>
    by_cases hb : scope.Bare key
    · have hne : key ≠ scope.encodeTitle key := hb key
      simp only [List.map_cons, List.count_cons, ih, beq_iff_eq, decodeTitle_eq_iff_of_bare hb,
        if_pos hb]
      by_cases hk : title = key
      · subst hk
        simp only [hne, or_true, ↓reduceIte]
        omega
      · simp only [hk, or_false, ↓reduceIte]
        omega
    · simp only [List.map_cons, List.count_cons, ih, beq_iff_eq,
        decodeTitle_eq_iff_of_not_bare hb, if_neg hb, Nat.add_zero]

end Listing

end Scope

end VaultRing
