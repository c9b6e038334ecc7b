import VaultRing.Proofs.Ambiguity
import VaultRing.Proofs.Interchange
import VaultRing.Proofs.OwnItem

namespace VaultRing

structure Field.Revalued (value : String) (f g : Field) : Prop where
  id : g.id = f.id ∨ f.id = ""
  title : g.title = f.title
  type : g.type = f.type
  value : g.value = if f.type = .concealed then value else f.value

structure VaultItem.Revalued (value : String) (now : Timestamp) (old new : VaultItem) : Prop where
  fields : List.Forall₂ (Field.Revalued value) old.fields new.fields
  others : new = { old with fields := new.fields, updatedAt := some now }

/-- An item of a scope as it is written back: whatever its other fields and tags have been. -/
theorem Transport.written_eq {scope : Scope} {old : VaultItem} {m : ManagedItem} (t : Transport)
    (drawn : Nat) (now : Timestamp) (value : String) (ho : scope.own? old = some m) :
    ∃ f, scope.Holds old f ∧
      t.written scope drawn (m.revalued now value) =
        { old with
          tags := t.tagsAfter scope old.tags
          fields := [MemoryVault.withId drawn { f with value }]
          updatedAt := some now } := by
  obtain ⟨hv, f, hf, rfl⟩ := Scope.own?_eq_some_iff.mp ho
  refine ⟨f, hf, ?_⟩
  have hcategory : old.category = .apiCredential := hf.category
  have hstate : old.state = .active := hf.active
  unfold written
  rw [writtenTags_eq, ← hv, ← hcategory, ← hstate]
  rfl

namespace Keyring

/-- Setting a key that has one item keeps of it all that a keyring knows: its id, title, category,
vault and state, and its concealed field with a new value. Its other fields are gone, and over a
gateway its other tags. -/
theorem set_keeps_what_it_knows (k : Keyring) (w : World) (item : Item)
    (ho : k.transport.OverVault) (hd : w.vault.Distinct)
    (hone : w.vault.matchCount k.scope item.key = 1)
    (hset : (Action.run (k.set item) w).1 = .ok ()) :
    ∃ front old back f,
      w.vault.items = front ++ old :: back ∧
        old.vaultId = k.scope.vaultId ∧ old.title = k.scope.encodeTitle item.key ∧
        k.scope.Holds old f ∧
        (Action.run (k.set item) w).2.vault.items =
          front ++
            { old with
              tags := k.transport.tagsAfter k.scope old.tags
              fields := [MemoryVault.withId w.vault.drawn { f with value := Payload.write item }]
              updatedAt := some w.clock } :: back := by
  obtain ⟨m, hl⟩ := MemoryVault.lookup_of_matchCount_one hone
  obtain ⟨front, old, back, hsingle⟩ := MemoryVault.exists_singlesOut hd hl
  obtain ⟨hv, -, ht⟩ := hsingle.isItemOf
  obtain ⟨f, hf, hwritten⟩ :=
    k.transport.written_eq w.vault.drawn w.clock (Payload.write item) hsingle.own
  obtain ⟨w', hrun, hw⟩ := set_updates (served_of_set ho hset) hd hl
  refine ⟨front, old, back, f, hsingle.items, hv, ht, hf, ?_⟩
  rw [hrun, ← hwritten]
  refine hw.items.trans ?_
  rw [hsingle.items]
  exact MemoryVault.rewrite_split hsingle.place_eq hsingle.places

section Noted

def notedItem : VaultItem :=
  { Scope.sample.created 0 Timestamp.noon "kr: a" "" with
    tags := ["x", "keyring"]
    fields := [⟨"note", "note", .text, "mine"⟩, ⟨"", "keyring", .concealed, ""⟩] }

def notedWorld : World :=
  World.ofVault { MemoryVault.ofItems [notedItem] with drawn := 1 } Timestamp.noon

def notedRemains (tags : List String) : VaultItem :=
  { notedItem with
    tags
    fields := [⟨"mock-2", "keyring", .concealed, Payload.write ⟨"a", [1]⟩⟩] }

theorem notedRemains_not_revalued (tags : List String) :
    ¬ notedItem.Revalued (Payload.write ⟨"a", [1]⟩) Timestamp.noon (notedRemains tags) := by
  intro h
  have hlength : notedItem.fields.length = (notedRemains tags).fields.length := h.fields.length_eq
  cases hlength

/-- The note is lost over every transport, and the tag over a gateway. -/
theorem set_loses_note :
    notedWorld.vault.Distinct ∧ notedWorld.vault.matchCount Scope.sample "a" = 1 ∧
      (Action.run (sampleStandard.set ⟨"a", [1]⟩) notedWorld).1 = .ok () ∧
      (Action.run (sampleStandard.set ⟨"a", [1]⟩) notedWorld).2.vault.items =
        [notedRemains ["x", "keyring"]] ∧
      ¬ notedItem.Revalued (Payload.write ⟨"a", [1]⟩) Timestamp.noon
        (notedRemains ["x", "keyring"]) ∧
      (Action.run (sampleConnect.set ⟨"a", [1]⟩) notedWorld).1 = .ok () ∧
      (Action.run (sampleConnect.set ⟨"a", [1]⟩) notedWorld).2.vault.items =
        [notedRemains ["keyring"]] ∧
      ¬ notedItem.Revalued (Payload.write ⟨"a", [1]⟩) Timestamp.noon (notedRemains ["keyring"]) :=
  ⟨by decide, by decide, by decide, by decide, notedRemains_not_revalued _, by decide, by decide,
    notedRemains_not_revalued _⟩

theorem noted_item_keeps_value :
    sampleConnect.transport.OverVault ∧ notedWorld.vault.Distinct ∧
      notedWorld.vault.matchCount Scope.sample "a" = 1 ∧
      (Action.run (sampleConnect.set ⟨"a", [1]⟩) notedWorld).1 = .ok () ∧
      ∃ front old back f,
        notedWorld.vault.items = front ++ old :: back ∧
          old.vaultId = "v" ∧ old.title = "kr: a" ∧ Scope.sample.Holds old f ∧
          (Action.run (sampleConnect.set ⟨"a", [1]⟩) notedWorld).2.vault.items =
            front ++
              { old with
                tags := ["keyring"]
                fields := [MemoryVault.withId 1 { f with value := Payload.write ⟨"a", [1]⟩ }]
                updatedAt := some Timestamp.noon } :: back := by
  have hd : notedWorld.vault.Distinct := by decide
  have hone : notedWorld.vault.matchCount Scope.sample "a" = 1 := by decide
  have hset : (Action.run (sampleConnect.set ⟨"a", [1]⟩) notedWorld).1 = .ok () := by decide
  exact ⟨trivial, hd, hone, hset,
    set_keeps_what_it_knows sampleConnect notedWorld ⟨"a", [1]⟩ trivial hd hone hset⟩

end Noted

end Keyring

end VaultRing
