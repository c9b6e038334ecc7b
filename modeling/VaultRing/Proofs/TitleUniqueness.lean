import VaultRing.Proofs.KeyringSession

namespace VaultRing

def MemoryVault.UniqueTitles (v : MemoryVault) (scope : Scope) : Prop :=
  ((v.managedItems scope).map (·.title)).Nodup

instance (v : MemoryVault) (scope : Scope) : Decidable (v.UniqueTitles scope) :=
  inferInstanceAs (Decidable ((v.managedItems scope).map (·.title)).Nodup)

section Written

variable {scope acting : Scope} {item : VaultItem} {m : ManagedItem}

theorem Transport.tag_mem_of_mem_writtenTags {t : Transport} {tag : String}
    (h : acting.own? item = some m) (ht : tag ∈ t.writtenTags acting m) : tag ∈ item.tags := by
  have hd := Scope.describes_of_own? h
  cases t with
  | standard backend limit | lazy slot backend auth limit => exact hd.tags ▸ ht
  | connect client =>
    obtain rfl : tag = acting.tag := List.mem_singleton.mp ht
    exact hd.tagged

/-- Writing an item back makes it no scope's that it has not been before. -/
theorem Scope.own?_of_own?_written {t : Transport} {drawn : Nat} {now : Timestamp} {value : String}
    {m' : ManagedItem} (h : acting.own? item = some m)
    (h' : scope.own? (t.written acting drawn (m.revalued now value)) = some m') :
    scope.own? item = some (managedOf item m.field) ∧ m'.title = item.title := by
  obtain ⟨hv, f, hf, rfl⟩ := own?_eq_some_iff.mp h
  have hd := describes_of_own? h
  have hconcealed : (MemoryVault.withId drawn
      ((managedOf item f).revalued now value).field).type = .concealed :=
    (MemoryVault.withId_type _ _).trans hd.concealed
  obtain ⟨hv', ht', hft', rfl⟩ := (own?_single rfl rfl rfl hconcealed).mp h'
  have htag : scope.tag ∈ item.tags := Transport.tag_mem_of_mem_writtenTags h ht'
  rw [MemoryVault.withId_title] at hft'
  exact ⟨own?_eq_some_iff.mpr ⟨hv.trans hv', f, ⟨hf.active, hf.category, htag, hf.only, hft'⟩, rfl⟩,
    rfl⟩

end Written

namespace MemoryVault

/-- Rewriting single items without renaming them brings no title anew. -/
theorem titles_sublist_of_map {scope : Scope} {g : VaultItem → VaultItem} {items : List VaultItem}
    (h : ∀ i ∈ items, ∀ m', scope.own? (g i) = some m' →
      ∃ m, scope.own? i = some m ∧ m'.title = m.title) :
    (((items.map g).filterMap scope.own?).map (·.title)).Sublist
      ((items.filterMap scope.own?).map (·.title)) := by
  induction items with
  | nil => exact .slnil
  | cons i items ih =>
    have hrest := ih fun j hj => h j (by simp [hj])
    have hi := h i (by simp)
    rw [List.map_cons]
    cases hg : scope.own? (g i) with
    | none =>
      rw [List.filterMap_cons_none hg]
      cases ho : scope.own? i with
      | none => rwa [List.filterMap_cons_none ho]
      | some m =>
        rw [List.filterMap_cons_some ho]
        exact hrest.cons _
    | some m' =>
      obtain ⟨m, ho, ht⟩ := hi m' hg
      rw [List.filterMap_cons_some hg, List.filterMap_cons_some ho, List.map_cons, List.map_cons,
        ht]
      exact hrest.cons_cons _

variable {scope : Scope} {v v' : MemoryVault}

theorem UniqueTitles.create {k : Keyring} (h : v.UniqueTitles scope) {key : String}
    {drawn : Nat} {now : Timestamp} {value : String}
    (hl : v.lookup k.scope key = .error .keyNotFound)
    (hi : v'.items = v.items ++ [k.scope.created drawn now (k.scope.encodeTitle key) value]) :
    v'.UniqueTitles scope := by
  unfold UniqueTitles managedItems
  rw [hi, List.filterMap_append]
  cases ho : scope.own? (k.scope.created drawn now (k.scope.encodeTitle key) value) with
  | none =>
    rw [List.filterMap_cons_none ho, List.filterMap_nil, List.append_nil]
    exact h
  | some m =>
    -- The new item is managed by `scope`, so `scope` manages what the acting scope does.
    obtain ⟨hv, ht, hft, rfl⟩ := (Scope.own?_single rfl rfl rfl rfl).mp ho
    have hsame : v.managedItems k.scope = v.managedItems scope := by
      have htag : k.scope.tag = scope.tag := (List.mem_singleton.mp ht).symm
      exact List.filterMap_congr fun i _ => Scope.own?_congr hv htag hft i
    rw [List.filterMap_cons_some ho, List.filterMap_nil, List.map_append, List.map_singleton,
      List.nodup_append]
    refine ⟨h, List.nodup_singleton _, ?_⟩
    intro a ha b hb
    obtain ⟨old, hold, rfl⟩ := List.mem_map.mp ha
    obtain rfl : b = k.scope.encodeTitle key := List.mem_singleton.mp hb
    exact Scope.title_ne_of_keyNotFound hl (hsame ▸ hold)

theorem UniqueTitles.update {k : Keyring} (h : v.UniqueTitles scope) (hd : v.Distinct)
    {key : String} {m : ManagedItem} {drawn : Nat} {now : Timestamp} {value : String}
    (hl : v.lookup k.scope key = .ok m)
    (hi : v'.items =
      rewrite (k.transport.written k.scope drawn (m.revalued now value)) v.items) :
    v'.UniqueTitles scope := by
  obtain ⟨item, hmem, ho, _⟩ := stored_of_lookup hl
  have hdesc := Scope.describes_of_own? ho
  unfold UniqueTitles managedItems
  rw [hi]
  refine List.Nodup.sublist (titles_sublist_of_map fun i hm m' h' => ?_) h
  split at h'
  · rename_i hp
    have hplace : place item = place (k.transport.written k.scope drawn (m.revalued now value)) :=
      Prod.ext hdesc.vaultId hdesc.id.symm
    obtain rfl : i = item := hd.eq_of_place hm hmem (hp.trans hplace.symm)
    obtain ⟨hold, ht⟩ := Scope.own?_of_own?_written ho h'
    exact ⟨_, hold, ht⟩
  · exact ⟨m', h', rfl⟩

end MemoryVault

/-- What a scope relies on: every item has a place of its own, and every managed one a title of its
own. -/
structure MemoryVault.WellKept (scope : Scope) (v : MemoryVault) : Prop where
  sound : v.Sound
  titles : v.UniqueTitles scope

theorem Keyring.Effect.wellKept {scope : Scope} {k : Keyring} {w w' : World}
    (he : k.Effect w w') (h : w.vault.WellKept scope) : w'.vault.WellKept scope := by
  refine ⟨he.sound h.sound, ?_⟩
  cases he with
  | read hr =>
    unfold MemoryVault.UniqueTitles
    rw [hr.managedItems_eq]
    exact h.titles
  | create item hl hw => exact h.titles.create hl hw.items
  | update item m hl hw => exact h.titles.update h.sound.distinct hl hw.items
  | delete key m hl hw =>
    unfold MemoryVault.UniqueTitles MemoryVault.managedItems
    rw [hw.items]
    exact h.titles.sublist ((List.filter_sublist.filterMap _).map _)

/-- Whatever scopes, transports, conditions and outcomes a run of operations has, it gives no scope
two managed items with one title, if there have been none before. -/
theorem runTurns_unique_titles (scope : Scope) (turns : List Turn) (w : World)
    (hd : w.vault.Distinct) (hf : w.vault.Fresh) (ht : w.vault.UniqueTitles scope) :
    (runTurns turns w).2.vault.Distinct ∧ (runTurns turns w).2.vault.UniqueTitles scope := by
  have hkept : (runTurns turns w).2.vault.WellKept scope :=
    runTurns_keeps (P := MemoryVault.WellKept scope) (fun _ h => h.sound.distinct)
      (fun _ _ h => ⟨⟨h.sound.distinct, h.sound.fresh⟩, h.titles⟩)
      (fun _ _ _ he h => he.wellKept h) turns w ⟨⟨hd, hf⟩, ht⟩
  exact ⟨hkept.sound.distinct, hkept.titles⟩

section Meeting

/-- Its keys that begin with `b: ` have the titles of the keys of `innerScope`. -/
def outerScope : Scope := ⟨"v", "a", "outer", "keyring"⟩

def innerScope : Scope := ⟨"v", "a: b", "inner", "keyring"⟩

def sharedVault : MemoryVault where
  items := [{ outerScope.created 0 Timestamp.noon "a: b: c" "" with tags := ["outer", "inner"] }]
  drawn := 2
  calls := CallCounts.zero
  delay := none
  failure := none

theorem sharedVault_fresh : sharedVault.Fresh :=
  MemoryVault.fresh_of_given fun item hi => by
    obtain rfl := List.mem_singleton.mp hi
    exact ⟨1, by decide, rfl⟩

/-- The gateway takes the item from the outer scope, which then gets one of its own. -/
def meetingTurns : List Turn :=
  let conditions := (World.ofVault sharedVault Timestamp.noon).conditions
  [⟨conditions, ⟨innerScope, .connect .vault, .propagate⟩, .set ⟨"c", [1]⟩⟩,
    ⟨conditions, ⟨outerScope, .standard .standard Duration.zero, .propagate⟩, .set ⟨"b: c", [2]⟩⟩]

theorem meeting_keeps_titles_unique :
    sharedVault.Distinct ∧ sharedVault.Fresh ∧ sharedVault.UniqueTitles outerScope ∧
      (runTurns meetingTurns (World.ofVault sharedVault Timestamp.noon)).2.vault.items.map
          (·.title) = ["a: b: c", "a: b: c"] ∧
      (runTurns meetingTurns (World.ofVault sharedVault Timestamp.noon)).2.vault.Distinct ∧
      (runTurns meetingTurns (World.ofVault sharedVault Timestamp.noon)).2.vault.UniqueTitles
        outerScope :=
  ⟨by decide, sharedVault_fresh, by decide, by decide,
    runTurns_unique_titles outerScope meetingTurns (World.ofVault sharedVault Timestamp.noon)
      (by decide) sharedVault_fresh (by decide)⟩

end Meeting

end VaultRing
