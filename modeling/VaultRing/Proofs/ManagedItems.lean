import VaultRing.Scope

namespace VaultRing.Scope

def sample : Scope := ⟨"v", "kr", "keyring", "keyring"⟩

structure Holds (scope : Scope) (item : VaultItem) (f : Field) : Prop where
  active : item.state = .active
  category : item.category = .apiCredential
  tagged : scope.tag ∈ item.tags
  only : item.fields.filter (·.type == .concealed) = [f]
  titled : f.title = scope.fieldTitle

def managedOf (item : VaultItem) (f : Field) : ManagedItem :=
  ⟨item.id, item.title, item.vaultId, item.tags, f, item.updatedAt⟩

theorem isCandidate_iff (scope : Scope) (tags : List String) (category : Category)
    (state : ItemState) :
    scope.isCandidate tags category state = true ↔
      state = .active ∧ category = .apiCredential ∧ scope.tag ∈ tags := by
  simp [isCandidate, and_assoc]

theorem managed?_eq_some_iff {scope : Scope} {item : VaultItem} {m : ManagedItem} :
    scope.managed? item = some m ↔ ∃ f, scope.Holds item f ∧ m = managedOf item f := by
  constructor
  · intro h
    unfold managed? at h
    split at h
    · cases h
    · rename_i hc
      obtain ⟨hs, hcat, ht⟩ := (isCandidate_iff ..).mp (by simpa using hc)
      split at h
      · rename_i f hf
        split at h
        · rename_i hft
          exact ⟨f, ⟨hs, hcat, ht, hf, by simpa using hft⟩, (Option.some.inj h).symm⟩
        · cases h
      · cases h
  · rintro ⟨f, ⟨hs, hcat, ht, hf, hft⟩, rfl⟩
    have hc := (isCandidate_iff scope item.tags item.category item.state).mpr ⟨hs, hcat, ht⟩
    simp [managed?, hc, hf, hft, managedOf]

theorem managed?_eq_none_of_not_candidate {scope : Scope} {item : VaultItem}
    (h : scope.isCandidate item.tags item.category item.state = false) :
    scope.managed? item = none := by
  simp [managed?, h]

/-- The managed item that a stored item is to the keyrings of a scope, which see one vault only. -/
def own? (scope : Scope) (item : VaultItem) : Option ManagedItem :=
  if item.vaultId = scope.vaultId then scope.managed? item else none

theorem own?_eq_some_iff {scope : Scope} {item : VaultItem} {m : ManagedItem} :
    scope.own? item = some m ↔
      item.vaultId = scope.vaultId ∧ ∃ f, scope.Holds item f ∧ m = managedOf item f := by
  unfold own?
  split
  · rename_i hv
    simp [hv, managed?_eq_some_iff]
  · rename_i hv
    simp [hv]

structure Describes (scope : Scope) (item : VaultItem) (m : ManagedItem) : Prop where
  id : m.id = item.id
  title : m.title = item.title
  vaultId : item.vaultId = scope.vaultId
  sameVault : m.vaultId = item.vaultId
  tags : m.tags = item.tags
  tagged : scope.tag ∈ item.tags
  concealed : m.field.type = .concealed
  fieldTitle : m.field.title = scope.fieldTitle

theorem describes_of_own? {scope : Scope} {item : VaultItem} {m : ManagedItem}
    (h : scope.own? item = some m) : scope.Describes item m := by
  obtain ⟨hv, f, hf, rfl⟩ := own?_eq_some_iff.mp h
  have hmem : f ∈ item.fields.filter (·.type == .concealed) := by simp [hf.only]
  have hconcealed : f.type = .concealed := by simpa using (List.mem_filter.mp hmem).2
  exact ⟨rfl, rfl, hv, rfl, rfl, hf.tagged, hconcealed, hf.titled⟩

theorem own?_congr {scope other : Scope} (hv : scope.vaultId = other.vaultId)
    (ht : scope.tag = other.tag) (hf : scope.fieldTitle = other.fieldTitle) (item : VaultItem) :
    scope.own? item = other.own? item := by
  unfold own? managed? isCandidate
  rw [hv, ht, hf]

section Single

variable {scope : Scope} {item : VaultItem} {f : Field}

theorem holds_single (hs : item.state = .active) (hc : item.category = .apiCredential)
    (hfs : item.fields = [f]) (hf : f.type = .concealed) (g : Field) :
    scope.Holds item g ↔ scope.tag ∈ item.tags ∧ f.title = scope.fieldTitle ∧ g = f := by
  have hfilter : item.fields.filter (·.type == .concealed) = [f] := by simp [hfs, hf]
  constructor
  · intro h
    have hg : [f] = [g] := hfilter.symm.trans h.only
    obtain rfl : f = g := by simpa using hg
    exact ⟨h.tagged, h.titled, rfl⟩
  · rintro ⟨ht, hft, rfl⟩
    exact ⟨hs, hc, ht, hfilter, hft⟩

theorem own?_single (hs : item.state = .active) (hc : item.category = .apiCredential)
    (hfs : item.fields = [f]) (hf : f.type = .concealed) {m : ManagedItem} :
    scope.own? item = some m ↔
      item.vaultId = scope.vaultId ∧ scope.tag ∈ item.tags ∧ f.title = scope.fieldTitle ∧
        m = managedOf item f := by
  rw [own?_eq_some_iff]
  constructor
  · rintro ⟨hv, g, hg, rfl⟩
    obtain ⟨ht, hft, rfl⟩ := (holds_single hs hc hfs hf g).mp hg
    exact ⟨hv, ht, hft, rfl⟩
  · rintro ⟨hv, ht, hft, rfl⟩
    exact ⟨hv, f, (holds_single hs hc hfs hf f).mpr ⟨ht, hft, rfl⟩, rfl⟩

end Single

section Lookup

variable {scope : Scope} {items : List ManagedItem} {key : String}

theorem findByKey_eq_ok_iff {m : ManagedItem} :
    scope.findByKey items key = .ok m ↔ items.filter (·.title == scope.encodeTitle key) = [m] := by
  simp only [findByKey]
  split
  · rename_i h
    simp [h]
  · rename_i h
    simp [h]
  · rename_i hnone hone
    simp only [reduceCtorEq, false_iff]
    exact fun h => hone m h

theorem findByKey_eq_keyNotFound_iff :
    scope.findByKey items key = .error .keyNotFound ↔
      items.filter (·.title == scope.encodeTitle key) = [] := by
  simp only [findByKey]
  split
  · rename_i h
    simp [h]
  · rename_i h
    simp [h]
  · rename_i hnone hone
    simp only [Except.error.injEq, reduceCtorEq, false_iff]
    exact hnone

theorem findByKey_of_two_le
    (h : 2 ≤ (items.filter (·.title == scope.encodeTitle key)).length) :
    scope.findByKey items key =
      .error (.ambiguous (items.filter (·.title == scope.encodeTitle key)).length
        (scope.encodeTitle key) scope.vaultId) := by
  simp only [findByKey]
  split
  · rename_i hf
    simp [hf] at h
  · rename_i hf
    simp [hf] at h
  · rfl

theorem title_ne_of_keyNotFound (h : scope.findByKey items key = .error .keyNotFound)
    {m : ManagedItem} (hm : m ∈ items) : m.title ≠ scope.encodeTitle key := by
  intro ht
  have hmem : m ∈ items.filter (·.title == scope.encodeTitle key) := by simp [hm, ht]
  rw [findByKey_eq_keyNotFound_iff.mp h] at hmem
  cases hmem

theorem mem_of_findByKey {m : ManagedItem} (h : scope.findByKey items key = .ok m) :
    m ∈ items ∧ m.title = scope.encodeTitle key := by
  have hmem : m ∈ items.filter (·.title == scope.encodeTitle key) := by
    simp [findByKey_eq_ok_iff.mp h]
  simpa using hmem

end Lookup

end VaultRing.Scope
