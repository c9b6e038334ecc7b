import VaultRing.Proofs.KeyringSession

namespace VaultRing.Keyring

variable (k : Keyring) (v : MemoryVault)

def existing : Except KeyringError ManagedItem → Except KeyringError (Option ManagedItem)
  | .ok m => .ok (some m)
  | .error e => if e.isNotFound then .ok none else .error e

theorem ok_of_existing {found : Except KeyringError ManagedItem} {m : ManagedItem}
    (h : existing found = .ok (some m)) : found = .ok m := by
  cases found with
  | ok m' =>
    obtain rfl := Option.some.inj (Except.ok.inj h)
    rfl
  | error e => cases he : e.isNotFound <;> simp [existing, he] at h

theorem keyNotFound_of_existing {found : Except KeyringError ManagedItem}
    (h : existing found = .ok none) : found = .error .keyNotFound := by
  cases found with
  | ok m => cases Except.ok.inj h
  | error e =>
    cases he : e.isNotFound with
    | true => rw [KeyringError.eq_keyNotFound he]
    | false => simp [existing, he] at h

def presence : Except KeyringError Item → Except KeyringError Bool
  | .ok _ => .ok true
  | .error e => if e.isNotFound then .ok false else .error e

def metadata (policy : MetadataPolicy) :
    Except KeyringError ManagedItem → Except KeyringError Metadata
  | .ok m => .ok ⟨m.updatedAt⟩
  | .error e => if e.isNotFound && policy == .zeroWhenMissing then .ok Metadata.zero else .error e

def answerFrom : Operation → Except KeyringError Answer
  | .get key => ((v.lookup k.scope key).bind fun m => decode m.field.value).map .item
  | .has key =>
    (presence ((v.lookup k.scope key).bind fun m => decode m.field.value)).map .presence
  | .getMetadata key => (metadata k.policy (v.lookup k.scope key)).map .metadata
  | .set item =>
    match v.lookup k.scope item.key with
    | .ok _ | .error .keyNotFound => .ok .done
    | .error e => .error e
  | .remove key => (v.lookup k.scope key).map fun _ => .done
  | .keys => (k.scope.listKeys (v.managedItems k.scope)).map .keys

def itemsAfter (now : Timestamp) : Operation → List VaultItem
  | .set item =>
    match v.lookup k.scope item.key with
    | .ok m =>
      MemoryVault.rewrite
        (k.transport.written k.scope v.drawn (m.revalued now (Payload.write item))) v.items
    | .error .keyNotFound =>
      v.items ++ [k.scope.created v.drawn now (k.scope.encodeTitle item.key) (Payload.write item)]
    | .error _ => v.items
  | .remove key =>
    match v.lookup k.scope key with
    | .ok m => v.items.filter (!MemoryVault.isAt k.scope.vaultId m.id ·)
    | .error _ => v.items
  | .get _ | .has _ | .getMetadata _ | .keys => v.items

def drawnAfter : Operation → Nat
  | .set item =>
    match v.lookup k.scope item.key with
    | .ok m => (MemoryVault.withFieldIds v.drawn [{ m.field with value := Payload.write item }]).2
    | .error .keyNotFound => v.drawn + 2
    | .error _ => v.drawn
  | .remove _ | .get _ | .has _ | .getMetadata _ | .keys => v.drawn

variable {k} {w : World}

structure HasOutcome (k : Keyring) (w : World) (operation : Operation) : Prop where
  answer : (Action.run (k.perform operation) w).1 = k.answerFrom w.vault operation
  items :
    (Action.run (k.perform operation) w).2.vault.items = k.itemsAfter w.vault w.clock operation
  drawn : (Action.run (k.perform operation) w).2.vault.drawn = k.drawnAfter w.vault operation

theorem HasOutcome.of_reads {α : Type} {a : Action α} {r : Except KeyringError α}
    (ha : a.Reads w r) (f : α → Answer) {operation : Operation}
    (hk : k.perform operation = f <$> a) (hr : k.answerFrom w.vault operation = r.map f)
    (hi : k.itemsAfter w.vault w.clock operation = w.vault.items)
    (hn : k.drawnAfter w.vault operation = w.vault.drawn) : k.HasOutcome w operation := by
  obtain ⟨w', hrun, ho⟩ := ha.map f
  exact ⟨by rw [hk, hrun, hr], by rw [hk, hrun, hi, ho.items], by rw [hk, hrun, hn, ho.drawn]⟩

theorem HasOutcome.of_writes {a : Action Unit} {kind : CallKind} {items : List VaultItem}
    {drawn : Nat} (ha : a.Writes w kind items drawn) {operation : Operation}
    (hk : k.perform operation = (fun _ => Answer.done) <$> a)
    (hr : k.answerFrom w.vault operation = .ok .done)
    (hi : k.itemsAfter w.vault w.clock operation = items)
    (hn : k.drawnAfter w.vault operation = drawn) : k.HasOutcome w operation := by
  obtain ⟨w', hrun, hw⟩ := ha.map fun _ => Answer.done
  exact ⟨by rw [hk, hrun, hr], by rw [hk, hrun, hi, hw.items], by rw [hk, hrun, hn, hw.drawn]⟩

theorem set_hasOutcome (hs : k.transport.Served w) (hd : w.vault.Distinct) (item : Item) :
    k.HasOutcome w (.set item) := by
  have hfind := find_reads hs hd item.key
  cases hl : w.vault.lookup k.scope item.key with
  | ok m =>
    exact .of_writes (set_updates hs hd hl) rfl (by simp only [answerFrom, hl])
      (by simp only [itemsAfter, hl]) (by simp only [drawnAfter, hl]; rfl)
  | error e =>
    rw [hl] at hfind
    cases e with
    | keyNotFound =>
      exact .of_writes (set_creates hs hd hl) rfl (by simp only [answerFrom, hl])
        (by simp only [itemsAfter, hl]) (by simp only [drawnAfter, hl])
    | _ =>
      exact .of_reads (set_fails hfind rfl) (fun _ => Answer.done) rfl
        (by simp only [answerFrom, hl]; rfl) (by simp only [itemsAfter, hl])
        (by simp only [drawnAfter, hl])

theorem remove_hasOutcome (hs : k.transport.Served w) (hd : w.vault.Distinct) (key : String) :
    k.HasOutcome w (.remove key) := by
  have hfind := find_reads hs hd key
  cases hl : w.vault.lookup k.scope key with
  | ok m =>
    exact .of_writes (remove_deletes hs hd hl) rfl (by simp only [answerFrom, hl]; rfl)
      (by simp only [itemsAfter, hl]) rfl
  | error e =>
    rw [hl] at hfind
    exact .of_reads (remove_fails hfind) (fun _ => Answer.done) rfl
      (by simp only [answerFrom, hl]; rfl) (by simp only [itemsAfter, hl]) rfl

theorem perform_hasOutcome (hs : k.transport.Served w) (hd : w.vault.Distinct)
    (operation : Operation) : k.HasOutcome w operation := by
  cases operation with
  | get key => exact .of_reads (get_reads hs hd key) Answer.item rfl rfl rfl rfl
  | has key => exact .of_reads (has_reads hs hd key) Answer.presence rfl rfl rfl rfl
  | getMetadata key => exact .of_reads (getMetadata_reads hs hd key) Answer.metadata rfl rfl rfl rfl
  | set item => exact set_hasOutcome hs hd item
  | remove key => exact remove_hasOutcome hs hd key
  | keys => exact .of_reads (keys_reads hs hd) Answer.keys rfl rfl rfl rfl

end VaultRing.Keyring
