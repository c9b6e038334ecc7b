import VaultRing.Proofs.LazyClient
import VaultRing.Proofs.KeyringOutcome
import VaultRing.Proofs.VaultMap

namespace VaultRing

variable {T : Timestamp → Timestamp → Prop}

/-- The same time, or two readings of clocks that are related. -/
def TimesAlike (T : Timestamp → Timestamp → Prop) (t t' : Option Timestamp) : Prop :=
  t = t' ∨ ∃ now now', T now now' ∧ t = some now ∧ t' = some now'

structure ManagedItem.SeenAlike (T : Timestamp → Timestamp → Prop) (m m' : ManagedItem) : Prop where
  title : m.title = m'.title
  value : m.field.value = m'.field.value
  updatedAt : TimesAlike T m.updatedAt m'.updatedAt

theorem ManagedItem.SeenAlike.refl (m : ManagedItem) : m.SeenAlike T m := ⟨rfl, rfl, .inl rfl⟩

def MemoryVault.SeenAlike (v : MemoryVault) (T : Timestamp → Timestamp → Prop) (scope : Scope)
    (v' : MemoryVault) : Prop :=
  List.Forall₂ (ManagedItem.SeenAlike T) (v.managedItems scope) (v'.managedItems scope)

/-- The same answer, or the metadata of an item that has been written at related times. -/
def AnswersAlike (T : Timestamp → Timestamp → Prop) (r r' : Except KeyringError Answer) : Prop :=
  r = r' ∨ ∃ now now', T now now' ∧ r = .ok (.metadata ⟨some now⟩) ∧
    r' = .ok (.metadata ⟨some now'⟩)

def FoundAlike (T : Timestamp → Timestamp → Prop) (found found' : Except KeyringError ManagedItem) :
    Prop :=
  (∃ e, found = .error e ∧ found' = .error e) ∨
    ∃ m m', found = .ok m ∧ found' = .ok m' ∧ m.SeenAlike T m'

namespace MemoryVault.SeenAlike

variable {v v' : MemoryVault} {scope : Scope}

theorem lookup (h : v.SeenAlike T scope v') (key : String) :
    FoundAlike T (v.lookup scope key) (v'.lookup scope key) := by
  have hfound : List.Forall₂ (ManagedItem.SeenAlike T)
      ((v.managedItems scope).filter (·.title == scope.encodeTitle key))
      ((v'.managedItems scope).filter (·.title == scope.encodeTitle key)) :=
    List.rel_filter (fun m m' hm => by simp only [hm.title]) h
  unfold MemoryVault.lookup
  simp only [Scope.findByKey]
  generalize (v.managedItems scope).filter _ = found at hfound ⊢
  generalize (v'.managedItems scope).filter _ = found' at hfound ⊢
  cases hfound with
  | nil => exact .inl ⟨_, rfl, rfl⟩
  | cons hm hothers =>
    cases hothers with
    | nil => exact .inr ⟨_, _, rfl, rfl, hm⟩
    | cons hm' hothers =>
      refine .inl ⟨_, rfl, ?_⟩
      simp only [List.length_cons, hothers.length_eq]

theorem titles (h : v.SeenAlike T scope v') :
    (v.managedItems scope).map (·.title) = (v'.managedItems scope).map (·.title) := by
  rw [← List.forall₂_eq_eq_eq, List.forall₂_map_left_iff, List.forall₂_map_right_iff]
  exact List.Forall₂.imp (fun m m' hm => hm.title) h

theorem listKeys (h : v.SeenAlike T scope v') :
    scope.listKeys (v.managedItems scope) = scope.listKeys (v'.managedItems scope) := by
  simp only [Scope.listKeys, h.titles]

theorem of_items {u u' : MemoryVault} (h : v.SeenAlike T scope v') (hu : u.items = v.items)
    (hu' : u'.items = v'.items) : u.SeenAlike T scope u' := by
  unfold SeenAlike managedItems
  rw [hu, hu']
  exact h

end MemoryVault.SeenAlike

namespace Keyring

section Answers

variable {k : Keyring} {v v' : MemoryVault}

theorem metadata_alike {found found' : Except KeyringError ManagedItem}
    (h : FoundAlike T found found') (policy : MetadataPolicy) :
    AnswersAlike T ((metadata policy found).map .metadata)
      ((metadata policy found').map .metadata) := by
  obtain ⟨e, rfl, rfl⟩ | ⟨m, m', rfl, rfl, hm⟩ := h
  · exact .inl rfl
  · rcases hm.updatedAt with ht | ⟨now, now', hnow, ht, ht'⟩
    · exact .inl (by simp only [metadata, ht])
    · refine .inr ⟨now, now', hnow, ?_, ?_⟩
      · simp only [metadata, ht]
        rfl
      · simp only [metadata, ht']
        rfl

theorem decode_alike {found found' : Except KeyringError ManagedItem}
    (h : FoundAlike T found found') :
    (found.bind fun m => decode m.field.value) = found'.bind fun m => decode m.field.value := by
  obtain ⟨e, rfl, rfl⟩ | ⟨m, m', rfl, rfl, hm⟩ := h
  · rfl
  · exact congrArg decode hm.value

theorem answerFrom_alike (h : v.SeenAlike T k.scope v') (operation : Operation) :
    AnswersAlike T (k.answerFrom v operation) (k.answerFrom v' operation) := by
  cases operation with
  | get key =>
    left
    simp only [answerFrom, decode_alike (h.lookup key)]
  | has key =>
    left
    simp only [answerFrom, decode_alike (h.lookup key)]
  | getMetadata key => exact metadata_alike (h.lookup key) k.policy
  | set item =>
    left
    simp only [answerFrom]
    obtain ⟨e, hl, hl'⟩ | ⟨m, m', hl, hl', -⟩ := h.lookup item.key
    · rw [hl, hl']
    · rw [hl, hl']
  | remove key =>
    left
    simp only [answerFrom]
    obtain ⟨e, hl, hl'⟩ | ⟨m, m', hl, hl', -⟩ := h.lookup key
    · rw [hl, hl']
    · rw [hl, hl']
      rfl
  | keys =>
    left
    simp only [answerFrom, h.listKeys]

end Answers

section Writes

variable {k : Keyring} {v v' u u' : MemoryVault} {now now' : Timestamp}

theorem created_alike (h : v.SeenAlike T k.scope v') (hnow : T now now') (title value : String)
    (hu : u.items = v.items ++ [k.scope.created v.drawn now title value])
    (hu' : u'.items = v'.items ++ [k.scope.created v'.drawn now' title value]) :
    u.SeenAlike T k.scope u' := by
  have hnew := MemoryVault.managedItems_append (k.scope.own?_created v.drawn now title value) hu
  have hnew' := MemoryVault.managedItems_append (k.scope.own?_created v'.drawn now' title value) hu'
  unfold MemoryVault.SeenAlike
  rw [hnew, hnew']
  exact List.rel_append h (.cons ⟨rfl, rfl, .inr ⟨now, now', hnow, rfl, rfl⟩⟩ .nil)

theorem revalued_alike {m m' : ManagedItem} (hm : m.SeenAlike T m') (hnow : T now now')
    (t : Transport) (scope : Scope) (drawn drawn' : Nat) (value : String) :
    (Scope.managedOf (t.written scope drawn (m.revalued now value))
        (MemoryVault.withId drawn (m.revalued now value).field)).SeenAlike T
      (Scope.managedOf (t.written scope drawn' (m'.revalued now' value))
        (MemoryVault.withId drawn' (m'.revalued now' value).field)) := by
  refine ⟨hm.title, ?_, .inr ⟨now, now', hnow, rfl, rfl⟩⟩
  change (MemoryVault.withId drawn _).value = (MemoryVault.withId drawn' _).value
  rw [MemoryVault.withId_value, MemoryVault.withId_value]
  rfl

theorem rewritten_alike (h : v.SeenAlike T k.scope v') (hd : v.Distinct) (hd' : v'.Distinct)
    (hnow : T now now') {key value : String} {m m' : ManagedItem}
    (hl : v.lookup k.scope key = .ok m) (hl' : v'.lookup k.scope key = .ok m')
    (hm : m.SeenAlike T m')
    (hu : u.items =
      MemoryVault.rewrite (k.transport.written k.scope v.drawn (m.revalued now value)) v.items)
    (hu' : u'.items =
      MemoryVault.rewrite (k.transport.written k.scope v'.drawn (m'.revalued now' value))
        v'.items) :
    u.SeenAlike T k.scope u' := by
  obtain ⟨stored, -, ho, -⟩ := MemoryVault.stored_of_lookup hl
  obtain ⟨stored', -, ho', -⟩ := MemoryVault.stored_of_lookup hl'
  have hnew := MemoryVault.managedItems_rewrite hd hl
    (Scope.own?_written k.transport v.drawn now value ho) rfl hu
  have hnew' := MemoryVault.managedItems_rewrite hd' hl'
    (Scope.own?_written k.transport v'.drawn now' value ho') rfl hu'
  unfold MemoryVault.SeenAlike
  rw [hnew, hnew', List.forall₂_map_left_iff, List.forall₂_map_right_iff]
  refine List.Forall₂.imp (fun old old' hold => ?_) h
  rw [hold.title]
  split
  · exact revalued_alike hm hnow k.transport k.scope v.drawn v'.drawn value
  · exact hold

theorem removed_alike (h : v.SeenAlike T k.scope v') (hd : v.Distinct) (hd' : v'.Distinct)
    {key : String} {m m' : ManagedItem} (hl : v.lookup k.scope key = .ok m)
    (hl' : v'.lookup k.scope key = .ok m')
    (hu : u.items = v.items.filter (!MemoryVault.isAt k.scope.vaultId m.id ·))
    (hu' : u'.items = v'.items.filter (!MemoryVault.isAt k.scope.vaultId m'.id ·)) :
    u.SeenAlike T k.scope u' := by
  unfold MemoryVault.SeenAlike
  rw [MemoryVault.managedItems_delete hd hl hu, MemoryVault.managedItems_delete hd' hl' hu']
  exact List.rel_filter (fun old old' hold => by simp only [hold.title]) h

theorem itemsAfter_alike (h : v.SeenAlike T k.scope v') (hd : v.Distinct) (hd' : v'.Distinct)
    (hnow : T now now') (operation : Operation) (hu : u.items = k.itemsAfter v now operation)
    (hu' : u'.items = k.itemsAfter v' now' operation) : u.SeenAlike T k.scope u' := by
  cases operation with
  | set item =>
    simp only [itemsAfter] at hu hu'
    obtain ⟨e, hl, hl'⟩ | ⟨m, m', hl, hl', hm⟩ := h.lookup item.key
    · rw [hl] at hu
      rw [hl'] at hu'
      cases e with
      | keyNotFound => exact created_alike h hnow _ _ hu hu'
      | _ => exact h.of_items hu hu'
    · rw [hl] at hu
      rw [hl'] at hu'
      exact rewritten_alike h hd hd' hnow hl hl' hm hu hu'
  | remove key =>
    simp only [itemsAfter] at hu hu'
    obtain ⟨e, hl, hl'⟩ | ⟨m, m', hl, hl', -⟩ := h.lookup key
    · rw [hl] at hu
      rw [hl'] at hu'
      exact h.of_items hu hu'
    · rw [hl] at hu
      rw [hl'] at hu'
      exact removed_alike h hd hd' hl hl' hu hu'
  | get key | has key | getMetadata key | keys => exact h.of_items hu hu'

end Writes

end Keyring

end VaultRing
