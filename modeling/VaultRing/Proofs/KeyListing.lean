import VaultRing.Proofs.KeyTitles

namespace VaultRing

namespace Scope

structure KeysAgree (scope : Scope) (items : List ManagedItem) (keys : List String) : Prop where
  listed : ∀ key m, scope.findByKey items key = .ok m → key ∈ keys
  found : ∀ key ∈ keys,
    (∃ m, scope.findByKey items key = .ok m) ∨ scope.Bare key ∧ ∃ m ∈ items, m.title = key
  repeated : ∀ key, keys.count key = 2 ↔
    (∃ m, scope.findByKey items key = .ok m) ∧ scope.Bare key ∧ ∃ m ∈ items, m.title = key
  atMostTwice : ∀ key, keys.count key ≤ 2
  prefixed : (∀ m ∈ items, ¬ scope.Bare m.title) →
    keys.Nodup ∧ ∀ key ∈ keys, ∃ m, scope.findByKey items key = .ok m

variable {scope : Scope} {items : List ManagedItem} {keys : List String}

theorem mem_listKeys_iff (h : scope.listKeys items = .ok keys) (key : String) :
    key ∈ keys ↔
      (∃ m, scope.findByKey items key = .ok m) ∨ scope.Bare key ∧ ∃ m ∈ items, m.title = key := by
  rw [findByKey_of_listKeys h, (listKeys_eq_ok_iff.mp h).2, List.mem_map]
  constructor
  · rintro ⟨title, ht, hd⟩
    rcases decodeTitle_eq_iff.mp hd with rfl | ⟨hb, rfl⟩
    · exact .inl ht
    · exact .inr ⟨hb, List.mem_map.mp ht⟩
  · rintro (ht | ⟨hb, hm⟩)
    · exact ⟨_, ht, decodeTitle_encodeTitle scope key⟩
    · exact ⟨key, List.mem_map.mpr hm, decodeTitle_of_bare hb⟩

theorem count_titles_le_one (h : scope.listKeys items = .ok keys) (title : String) :
    (items.map (·.title)).count title ≤ 1 :=
  List.nodup_iff_count_le_one.mp (listKeys_eq_ok_iff.mp h).1 title

theorem count_listKeys_le_two (h : scope.listKeys items = .ok keys) (key : String) :
    keys.count key ≤ 2 := by
  classical
  have hkeyed := count_titles_le_one h (scope.encodeTitle key)
  have hbare := count_titles_le_one h key
  rw [count_listKeys h]
  split <;> omega

theorem count_listKeys_eq_two_iff (h : scope.listKeys items = .ok keys) (key : String) :
    keys.count key = 2 ↔
      (∃ m, scope.findByKey items key = .ok m) ∧ scope.Bare key ∧ ∃ m ∈ items, m.title = key := by
  classical
  have hkeyed := count_titles_le_one h (scope.encodeTitle key)
  have hbare := count_titles_le_one h key
  have htitle : (∃ m ∈ items, m.title = key) ↔ 0 < (items.map (·.title)).count key := by
    rw [List.count_pos_iff, List.mem_map]
  rw [findByKey_of_listKeys h, ← List.count_pos_iff, htitle, count_listKeys h]
  by_cases hb : scope.Bare key
  · rw [if_pos hb]
    constructor
    · intro hc
      exact ⟨by omega, hb, by omega⟩
    · rintro ⟨hf, -, ht⟩
      omega
  · rw [if_neg hb]
    exact iff_of_false (by omega) fun hboth => hb hboth.2.1

theorem listKeys_agree (h : scope.listKeys items = .ok keys) : scope.KeysAgree items keys where
  listed := fun key m hm => (mem_listKeys_iff h key).mpr (.inl ⟨m, hm⟩)
  found := fun key hk => (mem_listKeys_iff h key).mp hk
  repeated := count_listKeys_eq_two_iff h
  atMostTwice := count_listKeys_le_two h
  prefixed := by
    intro hp
    have hnot : ∀ key, ¬ (scope.Bare key ∧ ∃ m ∈ items, m.title = key) := by
      rintro key ⟨hb, m, hm, rfl⟩
      exact hp m hm hb
    constructor
    · rw [List.nodup_iff_count_le_one]
      intro key
      have htwo : keys.count key ≠ 2 := fun hc =>
        hnot key ((count_listKeys_eq_two_iff h key).mp hc).2
      have hle := count_listKeys_le_two h key
      omega
    · intro key hk
      exact ((mem_listKeys_iff h key).mp hk).resolve_right (hnot key)

end Scope

theorem Keyring.keys_ok {k : Keyring} {w : World} {keys : List String}
    (h : (Action.run k.keys w).1 = .ok keys) :
    ∃ items, (Action.run (k.transport.managedItems k.scope none) w).1 = .ok items ∧
      k.scope.listKeys items = .ok keys := by
  obtain ⟨items, w₁, hr, h₁⟩ := Action.exists_of_run_bind_ok h
  obtain ⟨listed, w₂, hl, h₂⟩ := Action.exists_of_run_bind_ok h₁
  obtain ⟨_, w₃, _, h₃⟩ := Action.exists_of_run_bind_ok h₂
  obtain rfl : listed = keys := Except.ok.inj h₃
  exact ⟨items, by rw [hr], congrArg Prod.fst hl⟩

/-- Every key that leads to an item is listed. A listed key leads to its item, unless it is the bare
title of a listed item; and it is listed twice if and only if it is both, and else once. So it is
for any list of managed items, and for the list that a keyring gets in any world. -/
theorem keys_agree_with_lookup (scope : Scope) :
    (∀ (items : List ManagedItem) (keys : List String), scope.listKeys items = .ok keys →
      scope.KeysAgree items keys) ∧
    ∀ (transport : Transport) (policy : MetadataPolicy) (w : World) (keys : List String),
      (Action.run (Keyring.keys ⟨scope, transport, policy⟩) w).1 = .ok keys →
        ∃ items, (Action.run (transport.managedItems scope none) w).1 = .ok items ∧
          scope.KeysAgree items keys := by
  refine ⟨fun items keys h => Scope.listKeys_agree h, fun transport policy w keys h => ?_⟩
  obtain ⟨items, hitems, hkeys⟩ := Keyring.keys_ok h
  exact ⟨items, hitems, Scope.listKeys_agree hkeys⟩

section BareTitles

def bareVault : MemoryVault where
  items := ["kr: a", "a", "b"].mapIdx fun i title =>
    Scope.sample.created (2 * i) Timestamp.noon title ""
  drawn := 6
  calls := CallCounts.zero
  delay := none
  failure := none

/-- Two of the titles are no key's: they are listed, one of them beside the key of the same name,
and the other leads to nothing. -/
theorem bare_titles_disagree :
    Scope.sample.listKeys (bareVault.managedItems Scope.sample) = .ok ["a", "a", "b"] ∧
      ¬ ["a", "a", "b"].Nodup ∧
      Scope.sample.findByKey (bareVault.managedItems Scope.sample) "b" = .error .keyNotFound := by
  refine ⟨by decide, by decide, by decide⟩

theorem bare_titles_keys_agree :
    Scope.sample.listKeys (bareVault.managedItems Scope.sample) = .ok ["a", "a", "b"] ∧
      Scope.sample.KeysAgree (bareVault.managedItems Scope.sample) ["a", "a", "b"] :=
  ⟨by decide, (keys_agree_with_lookup Scope.sample).1 _ _ (by decide)⟩

end BareTitles

end VaultRing
