import VaultRing.Proofs.KeyringSession

namespace VaultRing

namespace MemoryVault

variable {v v' : MemoryVault} {e : TransportError} {now : Timestamp}

theorem items_of_replace_error {item : VaultItem} (h : v.replace item = (.error e, v')) :
    v'.items = v.items := by
  simp only [replace] at h
  split at h
  · cases h
  · obtain ⟨-, rfl⟩ := Prod.mk.inj h
    rfl

theorem items_of_take_error {vaultId itemId : String}
    (h : v.take vaultId itemId = (.error e, v')) : v'.items = v.items := by
  simp only [take] at h
  split at h
  · cases h
  · exact congrArg items (Prod.mk.inj h).2.symm

theorem items_of_itemsEffect_error {call : ItemsCall}
    (h : v.itemsEffect now call = (.error e, v')) : v'.items = v.items := by
  cases call with
  | list vaultId filter | create item => cases h
  | get vaultId itemId => exact congrArg items (Prod.mk.inj h).2.symm
  | put item => exact items_of_replace_error h
  | delete vaultId itemId => exact items_of_take_error h

theorem items_of_gatewayEffect_error {call : GatewayCall}
    (h : v.gatewayEffect now call = (.error e, v')) : v'.items = v.items := by
  cases call with
  | list vaultId | listByTitle title vaultId | create item vaultId => cases h
  | get itemId vaultId => exact congrArg items (Prod.mk.inj h).2.symm
  | update item vaultId =>
    cases hr : v.replace { item.toVaultItem with vaultId } with
    | mk result left =>
      simp only [gatewayEffect, hr, Prod.mk.injEq] at h
      obtain ⟨hresult, rfl⟩ := h
      cases result with
      | ok stored => cases hresult
      | error source => exact items_of_replace_error hr
  | delete itemId vaultId => exact items_of_take_error h

theorem items_of_answerItems_error {limit : Option Duration} {call : ItemsCall}
    (h : v.answerItems now limit call = (.error e, v')) : v'.items = v.items := by
  by_cases ha : v.Answers limit
  · rw [answerItems_of_answers ha] at h
    exact items_of_itemsEffect_error (v := v.counted call.kind) h
  · obtain ⟨source, hs⟩ := answerItems_of_not_answers ha now call
    rw [hs] at h
    obtain ⟨-, rfl⟩ := Prod.mk.inj h
    rfl

theorem items_of_answerGateway_error {call : GatewayCall}
    (h : v.answerGateway now call = (.error e, v')) : v'.items = v.items := by
  by_cases ha : v.Answers none
  · rw [answerGateway_of_answers ha] at h
    exact items_of_gatewayEffect_error (v := v.counted call.kind) h
  · obtain ⟨source, hs⟩ := answerGateway_of_not_answers ha now call
    rw [hs] at h
    obtain ⟨-, rfl⟩ := Prod.mk.inj h
    rfl

end MemoryVault

def Action.AllOrNothing {α : Type} (a : Action α) : Prop :=
  ∀ (w w' : World) (e : KeyringError), Action.run a w = (.error e, w') →
    w'.vault.items = w.vault.items

namespace Action.AllOrNothing

variable {α β : Type}

theorem of_readOnly {a : Action α} (h : a.ReadOnly) : a.AllOrNothing := by
  intro w w' e hr
  have hitems := (h w).items
  rwa [hr] at hitems

/-- A program that reads first may write once it is past what can fail. -/
theorem after_reading {a : Action α} {f : α → Action β} (ha : a.ReadOnly)
    (hf : ∀ x, (f x).AllOrNothing) : Action.AllOrNothing (a >>= f) := by
  intro w w' e h
  have hitems := (ha w).items
  rw [run_bind] at h
  split at h
  · rename_i x w₁ hr
    rw [hr] at hitems
    exact (hf x w₁ w' e h).trans hitems
  · rename_i _ w₁ hr
    rw [hr] at hitems
    obtain ⟨-, rfl⟩ := Prod.mk.inj h
    exact hitems

theorem map {a : Action α} (f : α → β) (ha : a.AllOrNothing) : Action.AllOrNothing (f <$> a) := by
  intro w w' e h
  rw [run_map] at h
  obtain ⟨hresult, rfl⟩ := Prod.mk.inj h
  cases hr : Action.run a w with
  | mk result w₁ =>
    rw [hr] at hresult
    cases result with
    | ok x => cases hresult
    | error source => exact ha w w₁ source hr

/-- What comes after the write cannot fail. -/
theorem then_pure {a : Action α} (ha : a.AllOrNothing) (f : α → β) :
    Action.AllOrNothing (a >>= fun x => pure (f x)) := by
  intro w w' e h
  cases hr : Action.run a w with
  | mk result w₁ =>
    cases result with
    | ok x =>
      rw [run_bind_ok hr] at h
      cases h
    | error source =>
      rw [run_bind_error hr] at h
      obtain ⟨-, rfl⟩ := Prod.mk.inj h
      exact ha w w₁ source hr

theorem orFail {ε : Type} {p : Program (Except ε α)} (wrap : ε → KeyringError)
    (hp : ∀ w w' e, p.run w = (.error e, w') → w'.vault.items = w.vault.items) :
    Action.AllOrNothing (Action.orFail p wrap) := by
  intro w w' e h
  rw [run_orFail] at h
  obtain ⟨hresult, rfl⟩ := Prod.mk.inj h
  cases hr : p.run w with
  | mk result w₁ =>
    rw [hr] at hresult
    cases result with
    | ok x => cases hresult
    | error source => exact hp w w₁ source hr

end Action.AllOrNothing

namespace Transport

variable {scope : Scope}

theorem itemsCall_allOrNothing (limit : Duration) (context : String) (call : ItemsCall) :
    (itemsCall limit context call).AllOrNothing := by
  refine .orFail _ fun w w' e h => ?_
  obtain ⟨hresult, rfl⟩ := Prod.mk.inj h
  exact MemoryVault.items_of_answerItems_error (Prod.ext hresult rfl)

theorem gatewayCall_allOrNothing (client : GatewayClient) (context : String) (call : GatewayCall) :
    (gatewayCall client context call).AllOrNothing := by
  cases client with
  | vault =>
    refine .orFail _ fun w w' e h => ?_
    obtain ⟨hresult, rfl⟩ := Prod.mk.inj h
    exact MemoryVault.items_of_answerGateway_error (Prod.ext hresult rfl)
  | http c => exact .of_readOnly (gatewayCall_http_readOnly c context call)

theorem create_allOrNothing (t : Transport) (title value : String) :
    (t.create scope title value).AllOrNothing := by
  cases t with
  | standard backend limit => exact .then_pure (itemsCall_allOrNothing _ _ _) _
  | lazy slot backend auth limit =>
    exact .after_reading (ensureClient_readOnly _ _ _) fun _ =>
      .then_pure (itemsCall_allOrNothing _ _ _) _
  | connect client => exact .then_pure (gatewayCall_allOrNothing client _ _) _

theorem update_allOrNothing (t : Transport) (item : ManagedItem) :
    (t.update scope item).AllOrNothing := by
  cases t with
  | standard backend limit => exact .then_pure (itemsCall_allOrNothing _ _ _) _
  | lazy slot backend auth limit =>
    exact .after_reading (ensureClient_readOnly _ _ _) fun _ =>
      .then_pure (itemsCall_allOrNothing _ _ _) _
  | connect client => exact .then_pure (gatewayCall_allOrNothing client _ _) _

theorem delete_allOrNothing (t : Transport) (itemId : String) :
    (t.delete scope itemId).AllOrNothing := by
  cases t with
  | standard backend limit => exact itemsCall_allOrNothing _ _ _
  | lazy slot backend auth limit =>
    exact .after_reading (ensureClient_readOnly _ _ _) fun _ => itemsCall_allOrNothing _ _ _
  | connect client => exact gatewayCall_allOrNothing client _ _

end Transport

def Operation.isRead : Operation → Bool
  | .get _ | .has _ | .getMetadata _ | .keys => true
  | .set _ | .remove _ => false

namespace Keyring

theorem set_allOrNothing (k : Keyring) (item : Item) : (k.set item).AllOrNothing := by
  refine .after_reading (k.find?_readOnly item.key) fun existing => ?_
  cases existing with
  | none => exact .after_reading (.log _ _ _) fun _ => k.transport.create_allOrNothing _ _
  | some found =>
    exact .after_reading (.log _ _ _) fun _ =>
      .after_reading (.perform (.request rfl)) fun _ => k.transport.update_allOrNothing _

theorem remove_allOrNothing (k : Keyring) (key : String) : (k.remove key).AllOrNothing :=
  .after_reading (k.find_readOnly key) fun _ =>
    .after_reading (.log _ _ _) fun _ => k.transport.delete_allOrNothing _

theorem perform_readOnly (k : Keyring) {operation : Operation} (h : operation.isRead = true) :
    (k.perform operation).ReadOnly := by
  cases operation with
  | get key => exact .map _ (k.get_readOnly key)
  | has key => exact .map _ (k.has_readOnly key)
  | getMetadata key => exact .map _ (k.getMetadata_readOnly key)
  | keys => exact .map _ k.keys_readOnly
  | set item | remove key => cases h

theorem perform_allOrNothing (k : Keyring) (operation : Operation) :
    (k.perform operation).AllOrNothing := by
  cases operation with
  | set item => exact .map _ (k.set_allOrNothing item)
  | remove key => exact .map _ (k.remove_allOrNothing key)
  | get key | has key | getMetadata key | keys => exact .of_readOnly (k.perform_readOnly rfl)

/-- In whatever world: an operation that fails leaves the stored items as they were, one that only
reads does so even if it succeeds, and a call that hits its deadline does nothing but count. -/
theorem perform_keeps_items (k : Keyring) (operation : Operation) (w : World) :
    (∀ e, (Action.run (k.perform operation) w).1 = .error e →
      (Action.run (k.perform operation) w).2.vault.items = w.vault.items) ∧
    (operation.isRead = true →
      (Action.run (k.perform operation) w).2.vault.items = w.vault.items) ∧
    ∀ (limit : Duration) (call : ItemsCall), w.vault.isLate (some limit) = true →
      w.answer (.items (some limit) call) =
        (.error (.timeout limit), { w with vault := w.vault.counted call.kind }) := by
  refine ⟨fun e he => ?_, fun hread => (k.perform_readOnly hread w).items, fun limit call hl => ?_⟩
  · exact k.perform_allOrNothing operation w _ e (Prod.ext he rfl)
  · have hlate : w.vault.answerItems w.clock (some limit) call =
        (.error (.timeout limit), w.vault.counted call.kind) := by
      simp [MemoryVault.answerItems, MemoryVault.enter, hl, MemoryVault.counted]
    simp only [World.answer, hlate]

section Crowded

def crowdedVault : MemoryVault where
  items :=
    [Scope.sample.created 0 Timestamp.noon "kr: a" "?",
      { Scope.sample.created 0 Timestamp.noon "kr: a" "" with tags := ["keyring", "x"] }]
  drawn := 2
  calls := CallCounts.zero
  delay := none
  failure := none

def slowVault : MemoryVault := { crowdedVault with delay := some 1 }

theorem crowded_vault_is_kept :
    (Action.run (sampleLazy.perform (.remove "a"))
        (World.ofVault crowdedVault Timestamp.noon)).1 = .error (.ambiguous 2 "kr: a" "v") ∧
      (Action.run (sampleLazy.perform (.remove "a"))
        (World.ofVault crowdedVault Timestamp.noon)).2.vault.items = crowdedVault.items ∧
      (Operation.get "a").isRead = true ∧
      (Action.run (sampleLazy.perform (.get "a"))
        (World.ofVault crowdedVault Timestamp.noon)).2.vault.items = crowdedVault.items ∧
      slowVault.isLate (some Duration.zero) = true ∧
      (World.ofVault slowVault Timestamp.noon).answer
          (.items (some Duration.zero) (.delete "v" "mock-1")) =
        (.error (.timeout Duration.zero),
          { World.ofVault slowVault Timestamp.noon with vault := slowVault.counted .delete }) := by
  have herror : (Action.run (sampleLazy.perform (.remove "a"))
      (World.ofVault crowdedVault Timestamp.noon)).1 = .error (.ambiguous 2 "kr: a" "v") := by
    decide
  exact ⟨herror,
    (perform_keeps_items sampleLazy (.remove "a") (World.ofVault crowdedVault Timestamp.noon)).1
      _ herror,
    rfl,
    (perform_keeps_items sampleLazy (.get "a")
      (World.ofVault crowdedVault Timestamp.noon)).2.1 rfl,
    by decide,
    (perform_keeps_items sampleLazy .keys (World.ofVault slowVault Timestamp.noon)).2.2
      Duration.zero (.delete "v" "mock-1") (by decide)⟩

end Crowded

end Keyring

end VaultRing
