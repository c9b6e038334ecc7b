import VaultRing.Proofs.KeyringLookup

namespace VaultRing

inductive Operation where
  | get (key : String)
  | has (key : String)
  | getMetadata (key : String)
  | set (item : Item)
  | remove (key : String)
  | keys

inductive Answer where
  | item (item : Item)
  | presence (present : Bool)
  | metadata (metadata : Metadata)
  | done
  | keys (keys : List String)
deriving DecidableEq

def Operation.key? : Operation → Option String
  | .get key | .has key | .getMetadata key | .remove key => some key
  | .set item => some item.key
  | .keys => none

def Keyring.perform (k : Keyring) : Operation → Action Answer
  | .get key => .item <$> k.get key
  | .has key => .presence <$> k.has key
  | .getMetadata key => .metadata <$> k.getMetadata key
  | .set item => (fun _ => .done) <$> k.set item
  | .remove key => (fun _ => .done) <$> k.remove key
  | .keys => .keys <$> k.keys

def ManagedItem.revalued (m : ManagedItem) (now : Timestamp) (value : String) : ManagedItem :=
  { m with field := { m.field with value }, updatedAt := some now }

namespace MemoryVault

theorem stored_of_lookup {v : MemoryVault} {scope : Scope} {key : String} {m : ManagedItem}
    (h : v.lookup scope key = .ok m) :
    ∃ item ∈ v.items, scope.own? item = some m ∧ m.title = scope.encodeTitle key := by
  obtain ⟨hm, ht⟩ := Scope.mem_of_findByKey h
  obtain ⟨item, hi, ho⟩ := List.mem_filterMap.mp hm
  exact ⟨item, hi, ho, ht⟩

theorem place_of_lookup {v : MemoryVault} {scope : Scope} {key : String} {m : ManagedItem}
    (h : v.lookup scope key = .ok m) : ∃ item ∈ v.items, place item = (scope.vaultId, m.id) := by
  obtain ⟨item, hi, ho, _⟩ := stored_of_lookup h
  have hd := Scope.describes_of_own? ho
  exact ⟨item, hi, by rw [place, hd.vaultId, hd.id]⟩

end MemoryVault

theorem Transport.rewritable_of_lookup {w : World} {scope : Scope} {key : String} {m : ManagedItem}
    (h : w.vault.lookup scope key = .ok m) (now : Timestamp) (value : String) :
    Rewritable scope w (m.revalued now value) := by
  obtain ⟨item, hi, ho, _⟩ := MemoryVault.stored_of_lookup h
  have hd := Scope.describes_of_own? ho
  have hplace := MemoryVault.place_of_lookup h
  exact ⟨hd.sameVault.trans hd.vaultId, hd.concealed, hd.fieldTitle, hplace⟩

theorem Action.Writes.map {α : Type} {a : Action Unit} {w : World} {kind : CallKind}
    {items : List VaultItem} {drawn : Nat} (h : a.Writes w kind items drawn) (f : Unit → α) :
    ∃ w', Action.run (f <$> a) w = (.ok (f ()), w') ∧ w.Wrote kind items drawn w' := by
  obtain ⟨w', hr, hw⟩ := h
  exact ⟨w', by rw [run_map, hr]; rfl, hw⟩

namespace Keyring

variable {k : Keyring} {w : World}

section Writing

variable {item : Item} {key : String} {m : ManagedItem}

theorem set_fails {e : KeyringError} (h : (k.find item.key).Reads w (.error e))
    (he : e.isNotFound = false) : (k.set item).Reads w (.error e) :=
  .bind_error (find?_reads_error h he)

theorem set_creates (h : k.transport.Served w) (hd : w.vault.Distinct)
    (hl : w.vault.lookup k.scope item.key = .error .keyNotFound) :
    (k.set item).Writes w .create
      (w.vault.items ++
        [k.scope.created w.vault.drawn w.clock (k.scope.encodeTitle item.key)
          (Payload.write item)])
      (w.vault.drawn + 2) := by
  refine (find?_reads_none (hl ▸ find_reads h hd item.key)).bind_writes fun w₁ h₁ => ?_
  refine (Action.Reads.of_readOnly (.log _ _ _) w₁).bind_writes fun w₂ h₂ => ?_
  have h₀ := h₁.trans h₂
  have hw : (k.transport.create k.scope (k.scope.encodeTitle item.key)
      (Payload.write item)).Writes w₂ _ _ _ := Transport.create_writes (h₀.served h)
  rwa [h₀.items, h₀.drawn, h₀.clock_eq] at hw

theorem set_updates (h : k.transport.Served w) (hd : w.vault.Distinct)
    (hl : w.vault.lookup k.scope item.key = .ok m) :
    (k.set item).Writes w .update
      (MemoryVault.rewrite
        (k.transport.written k.scope w.vault.drawn (m.revalued w.clock (Payload.write item)))
        w.vault.items)
      (MemoryVault.withFieldIds w.vault.drawn
        [(m.revalued w.clock (Payload.write item)).field]).2 := by
  refine (find?_reads_some (hl ▸ find_reads h hd item.key)).bind_writes fun w₁ h₁ => ?_
  refine (Action.Reads.of_readOnly (.log _ _ _) w₁).bind_writes fun w₂ h₂ => ?_
  refine (Action.Reads.perform (p := Program.now) (.request rfl) w₂).bind_writes fun w₃ h₃ => ?_
  have h₀ := (h₁.trans h₂).trans h₃
  have hclock : (Program.now.run w₂).1 = w.clock := (h₁.trans h₂).clock_eq
  have hw :
      (k.transport.update k.scope (m.revalued w.clock (Payload.write item))).Writes w₃ _ _ _ :=
    Transport.update_writes (h₀.served h) (h₀.distinct hd)
      ((Transport.rewritable_of_lookup hl _ _).of_sameStore h₀.toSameStore)
  rw [h₀.items, h₀.drawn] at hw
  rw [hclock]
  exact hw

theorem remove_fails {e : KeyringError} (h : (k.find key).Reads w (.error e)) :
    (k.remove key).Reads w (.error e) := h.bind_error

theorem remove_deletes (h : k.transport.Served w) (hd : w.vault.Distinct)
    (hl : w.vault.lookup k.scope key = .ok m) :
    (k.remove key).Writes w .delete
      (w.vault.items.filter (!MemoryVault.isAt k.scope.vaultId m.id ·)) w.vault.drawn := by
  refine Action.Reads.bind_writes (hl ▸ find_reads h hd key) fun w₁ h₁ => ?_
  refine (Action.Reads.of_readOnly (.log _ _ _) w₁).bind_writes fun w₂ h₂ => ?_
  have h₀ := h₁.trans h₂
  have hw : (k.transport.delete k.scope m.id).Writes w₂ _ _ _ :=
    Transport.delete_writes (h₀.served h) (h₀.items ▸ MemoryVault.place_of_lookup hl)
  rwa [h₀.items, h₀.drawn] at hw

end Writing

section OverHttp

variable {scope : Scope} {policy : MetadataPolicy}

/-- A gateway over HTTP has items of its own, and the vault is left alone. -/
theorem set_http_readOnly (c : HttpClient) (item : Item) :
    (Keyring.set ⟨scope, .connect (.http c), policy⟩ item).ReadOnly := by
  refine .bind (find?_readOnly _ _) fun existing => ?_
  cases existing with
  | none =>
    exact .bind (.log _ _ _) fun _ =>
      .bind (Transport.gatewayCall_http_readOnly c _ _) fun _ => .pure ()
  | some found =>
    exact .bind (.log _ _ _) fun _ => .bind (.perform (.request rfl)) fun _ =>
      .bind (Transport.gatewayCall_http_readOnly c _ _) fun _ => .pure ()

theorem remove_http_readOnly (c : HttpClient) (key : String) :
    (Keyring.remove ⟨scope, .connect (.http c), policy⟩ key).ReadOnly :=
  .bind (find_readOnly _ _) fun _ => .bind (.log _ _ _) fun _ =>
    Transport.gatewayCall_http_readOnly c _ _

end OverHttp

/-- How the stored items may be left by an operation: as they are, with a new item where the key
was missing, or with the item of the key rewritten or gone. -/
inductive Effect (k : Keyring) (w w' : World) : Prop where
  | read (h : w.OnlyRead w')
  | create (item : Item) (hl : w.vault.lookup k.scope item.key = .error .keyNotFound)
      (h : w.Wrote .create
        (w.vault.items ++
          [k.scope.created w.vault.drawn w.clock (k.scope.encodeTitle item.key)
            (Payload.write item)])
        (w.vault.drawn + 2) w')
  | update (item : Item) (m : ManagedItem) (hl : w.vault.lookup k.scope item.key = .ok m)
      (h : w.Wrote .update
        (MemoryVault.rewrite
          (k.transport.written k.scope w.vault.drawn (m.revalued w.clock (Payload.write item)))
          w.vault.items)
        (MemoryVault.withFieldIds w.vault.drawn
          [(m.revalued w.clock (Payload.write item)).field]).2 w')
  | delete (key : String) (m : ManagedItem) (hl : w.vault.lookup k.scope key = .ok m)
      (h : w.Wrote .delete
        (w.vault.items.filter (!MemoryVault.isAt k.scope.vaultId m.id ·)) w.vault.drawn w')

theorem overVault_or_http (k : Keyring) :
    k.transport.OverVault ∨ ∃ c, k = ⟨k.scope, .connect (.http c), k.policy⟩ := by
  obtain ⟨scope, transport, policy⟩ := k
  cases transport with
  | standard backend limit | lazy slot backend auth limit => exact .inl trivial
  | connect client =>
    cases client with
    | vault => exact .inl trivial
    | http c => exact .inr ⟨c, rfl⟩

theorem Effect.of_readOnly {α β : Type} {a : Action α} (f : α → β) (h : a.ReadOnly) :
    k.Effect w (Action.run (f <$> a) w).2 := .read (Action.ReadOnly.map f h w)

theorem Effect.of_reads {α β : Type} {a : Action α} {r : Except KeyringError α} (f : α → β)
    (h : a.Reads w r) : k.Effect w (Action.run (f <$> a) w).2 := by
  obtain ⟨w', hr, ho⟩ := h.map f
  rw [hr]
  exact .read ho

theorem set_effect (k : Keyring) (hd : w.vault.Distinct) (item : Item) :
    k.Effect w (Action.run (k.perform (.set item)) w).2 := by
  rcases k.overVault_or_http with ho | ⟨c, hc⟩
  · by_cases hs : k.transport.Served w
    · cases hl : w.vault.lookup k.scope item.key with
      | ok m =>
        obtain ⟨w', hr, hw⟩ := (set_updates hs hd hl).map fun _ => Answer.done
        exact .update item m hl (by rw [perform, hr]; exact hw)
      | error e =>
        cases he : e.isNotFound with
        | true =>
          obtain rfl := KeyringError.eq_keyNotFound he
          obtain ⟨w', hr, hw⟩ := (set_creates hs hd hl).map fun _ => Answer.done
          exact .create item hl (by rw [perform, hr]; exact hw)
        | false => exact .of_reads _ (set_fails (hl ▸ find_reads hs hd item.key) he)
    · obtain ⟨e, hoe, hr⟩ := find_fails ho hs item.key
      exact .of_reads _ (set_fails hr (KeyringError.isNotFound_of_isOutside hoe))
  · exact .of_readOnly _ (hc ▸ set_http_readOnly c item)

theorem remove_effect (k : Keyring) (hd : w.vault.Distinct) (key : String) :
    k.Effect w (Action.run (k.perform (.remove key)) w).2 := by
  rcases k.overVault_or_http with ho | ⟨c, hc⟩
  · by_cases hs : k.transport.Served w
    · cases hl : w.vault.lookup k.scope key with
      | ok m =>
        obtain ⟨w', hr, hw⟩ := (remove_deletes hs hd hl).map fun _ => Answer.done
        exact .delete key m hl (by rw [perform, hr]; exact hw)
      | error e => exact .of_reads _ (remove_fails (hl ▸ find_reads hs hd key))
    · obtain ⟨e, _, hr⟩ := find_fails ho hs key
      exact .of_reads _ (remove_fails hr)
  · exact .of_readOnly _ (hc ▸ remove_http_readOnly c key)

theorem perform_effect (k : Keyring) (hd : w.vault.Distinct) (operation : Operation) :
    k.Effect w (Action.run (k.perform operation) w).2 := by
  cases operation with
  | get key => exact .of_readOnly _ (k.get_readOnly key)
  | has key => exact .of_readOnly _ (k.has_readOnly key)
  | getMetadata key => exact .of_readOnly _ (k.getMetadata_readOnly key)
  | set item => exact set_effect k hd item
  | remove key => exact remove_effect k hd key
  | keys => exact .of_readOnly _ k.keys_readOnly

end Keyring

end VaultRing
