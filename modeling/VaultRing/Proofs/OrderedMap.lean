import Mathlib.Data.List.Nodup
import VaultRing.Proofs.KeyringSession

namespace VaultRing

structure Entry where
  item : Item
  modifiedAt : Option Timestamp
deriving DecidableEq

def Entry.key (e : Entry) : String := e.item.key

structure OrderedMap where
  entries : List Entry
  distinct : (entries.map Entry.key).Nodup

namespace OrderedMap

def keys (m : OrderedMap) : List String := m.entries.map Entry.key

def find? (m : OrderedMap) (key : String) : Option Entry := m.entries.find? (·.key == key)

def append (m : OrderedMap) (e : Entry) (h : e.key ∉ m.keys) : OrderedMap where
  entries := m.entries ++ [e]
  distinct := by
    rw [List.map_append, List.map_singleton, List.nodup_append]
    refine ⟨m.distinct, List.nodup_singleton _, ?_⟩
    rintro a ha b hb rfl
    exact h (List.mem_singleton.mp hb ▸ ha)

theorem map_key_replaced (e : Entry) (entries : List Entry) :
    (entries.map fun old => if old.key = e.key then e else old).map Entry.key =
      entries.map Entry.key := by
  rw [List.map_map]
  apply List.map_congr_left
  intro old _
  by_cases h : old.key = e.key <;> simp [h]

def replace (m : OrderedMap) (e : Entry) : OrderedMap where
  entries := m.entries.map fun old => if old.key = e.key then e else old
  distinct := by
    rw [map_key_replaced]
    exact m.distinct

def insert (m : OrderedMap) (e : Entry) : OrderedMap :=
  if h : e.key ∈ m.keys then m.replace e else m.append e h

def erase (m : OrderedMap) (key : String) : OrderedMap where
  entries := m.entries.filter (!·.key == key)
  distinct := m.distinct.sublist (List.filter_sublist.map _)

def perform (m : OrderedMap) (policy : MetadataPolicy) (now : Timestamp) :
    Operation → Except KeyringError Answer × OrderedMap
  | .get key =>
    match m.find? key with
    | some e => (.ok (.item e.item), m)
    | none => (.error .keyNotFound, m)
  | .has key => (.ok (.presence (m.find? key).isSome), m)
  | .getMetadata key =>
    match m.find? key, policy with
    | some e, _ => (.ok (.metadata ⟨e.modifiedAt⟩), m)
    | none, .zeroWhenMissing => (.ok (.metadata Metadata.zero), m)
    | none, .propagate => (.error .keyNotFound, m)
  | .set item => (.ok .done, m.insert ⟨item, some now⟩)
  | .remove key =>
    match m.find? key with
    | some _ => (.ok .done, m.erase key)
    | none => (.error .keyNotFound, m)
  | .keys => (.ok (.keys m.keys), m)

def runTurns : List Turn → OrderedMap → List (Except KeyringError Answer) × OrderedMap
  | [], m => ([], m)
  | t :: turns, m =>
    let (answer, m) := m.perform t.keyring.policy t.conditions.clock t.operation
    let (answers, m) := runTurns turns m
    (answer :: answers, m)

variable {m : OrderedMap} {key : String} {e : Entry}

theorem find?_eq_none_iff : m.find? key = none ↔ key ∉ m.keys := by
  simp only [find?, keys, List.find?_eq_none, List.mem_map, beq_iff_eq, not_exists, not_and]

theorem key_of_find? (h : m.find? key = some e) : e ∈ m.entries ∧ e.key = key :=
  ⟨List.mem_of_find?_eq_some h, by simpa using List.find?_some h⟩

theorem filter_entries (m : OrderedMap) (key : String) :
    m.entries.filter (·.key == key) = (m.find? key).toList := by
  obtain ⟨entries, hd⟩ := m
  simp only [find?]
  induction entries with
  | nil => rfl
  | cons e entries ih =>
    rw [List.map_cons, List.nodup_cons] at hd
    by_cases hk : e.key = key
    · have hothers : entries.filter (·.key == key) = [] := by
        rw [List.filter_eq_nil_iff]
        intro other ho he
        exact hd.1 (hk ▸ (beq_iff_eq.mp he) ▸ List.mem_map_of_mem ho)
      rw [List.filter_cons_of_pos (by simpa using hk), hothers,
        List.find?_cons_of_pos (by simpa using hk)]
      rfl
    · rw [List.filter_cons_of_neg (by simpa using hk), ih hd.2,
        List.find?_cons_of_neg (by simpa using hk)]

theorem insert_of_find?_none (h : m.find? e.key = none) :
    (m.insert e).entries = m.entries ++ [e] := by
  unfold insert
  rw [dif_neg (find?_eq_none_iff.mp h)]
  rfl

theorem insert_of_find?_some {old : Entry} (h : m.find? e.key = some old) :
    (m.insert e).entries = m.entries.map fun other => if other.key = e.key then e else other := by
  obtain ⟨hmem, hk⟩ := key_of_find? h
  have hkeys : e.key ∈ m.keys := hk ▸ List.mem_map_of_mem hmem
  unfold insert
  rw [dif_pos hkeys]
  rfl

section Laws

theorem find?_eq_some_iff : m.find? key = some e ↔ e ∈ m.entries ∧ e.key = key := by
  rw [← Option.mem_toList, ← filter_entries, List.mem_filter, beq_iff_eq]

theorem mem_insert {other : Entry} :
    other ∈ (m.insert e).entries ↔ other = e ∨ other ∈ m.entries ∧ other.key ≠ e.key := by
  cases hf : m.find? e.key with
  | none =>
    have hnew : ∀ old ∈ m.entries, old.key ≠ e.key := fun old ho hk =>
      find?_eq_none_iff.mp hf (hk ▸ List.mem_map_of_mem ho)
    rw [insert_of_find?_none hf, List.mem_append, List.mem_singleton]
    constructor
    · rintro (ho | rfl)
      · exact .inr ⟨ho, hnew other ho⟩
      · exact .inl rfl
    · rintro (rfl | ⟨ho, _⟩)
      · exact .inr rfl
      · exact .inl ho
  | some old =>
    obtain ⟨hmem, hk⟩ := key_of_find? hf
    rw [insert_of_find?_some hf, List.mem_map]
    constructor
    · rintro ⟨a, ha, rfl⟩
      by_cases h : a.key = e.key
      · exact .inl (if_pos h)
      · rw [if_neg h]
        exact .inr ⟨ha, h⟩
    · rintro (rfl | ⟨ho, h⟩)
      · exact ⟨old, hmem, if_pos hk⟩
      · exact ⟨other, ho, if_neg h⟩

/-- What has been put under a key is found there, and nothing else has changed. -/
theorem find?_insert (m : OrderedMap) (e : Entry) (key : String) :
    (m.insert e).find? key = if e.key = key then some e else m.find? key := by
  ext other
  rw [find?_eq_some_iff, mem_insert]
  by_cases hk : e.key = key
  · rw [if_pos hk, Option.some_inj]
    constructor
    · rintro ⟨rfl | ⟨_, hne⟩, ho⟩
      · rfl
      · exact absurd (ho.trans hk.symm) hne
    · rintro rfl
      exact ⟨.inl rfl, hk⟩
  · rw [if_neg hk, find?_eq_some_iff]
    constructor
    · rintro ⟨rfl | ⟨hmem, _⟩, ho⟩
      · exact absurd ho hk
      · exact ⟨hmem, ho⟩
    · rintro ⟨hmem, rfl⟩
      exact ⟨.inr ⟨hmem, fun h => hk h.symm⟩, rfl⟩

theorem find?_erase (m : OrderedMap) (key other : String) :
    (m.erase key).find? other = if key = other then none else m.find? other := by
  ext e
  rw [find?_eq_some_iff]
  change e ∈ m.entries.filter (!·.key == key) ∧ _ ↔ _
  rw [List.mem_filter]
  by_cases hk : key = other
  · subst hk
    simp
  · rw [if_neg hk, find?_eq_some_iff]
    constructor
    · rintro ⟨⟨hmem, _⟩, ho⟩
      exact ⟨hmem, ho⟩
    · rintro ⟨hmem, rfl⟩
      exact ⟨⟨hmem, by simpa using fun h => hk h.symm⟩, rfl⟩

/-- A key that is there keeps its place, and a new one comes last. -/
theorem keys_insert (m : OrderedMap) (e : Entry) :
    (m.insert e).keys = if e.key ∈ m.keys then m.keys else m.keys ++ [e.key] := by
  unfold insert
  split
  · exact map_key_replaced e m.entries
  · unfold keys append
    rw [List.map_append, List.map_singleton]

end Laws

end OrderedMap

end VaultRing
