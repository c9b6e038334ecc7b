import VaultRing.Proofs.ProgramRun
import VaultRing.Transport

/-!
What a program leaves alone. A program that only reads changes neither the stored items nor the
count of writing calls, nor anything else that a later answer hangs on, in whatever world it runs.
-/
namespace VaultRing

def CallKind.isWrite : CallKind → Bool
  | .list | .listByTitle | .get => false
  | .create | .update | .delete => true

namespace CallCounts

def of (c : CallCounts) : CallKind → Nat
  | .list => c.list
  | .listByTitle => c.listByTitle
  | .get => c.get
  | .create => c.create
  | .update => c.update
  | .delete => c.delete

theorem of_count (c : CallCounts) (kind other : CallKind) :
    (c.count kind).of other = c.of other + if kind = other then 1 else 0 := by
  cases kind <;> cases other <;> rfl

end CallCounts

/-- What surrounds a vault and changes only from outside. -/
structure Conditions where
  clock : Timestamp
  failure : Option String
  delay : Option Nat
  connectorFailure : Option String
  environment : Environment

namespace World

def conditions (w : World) : Conditions where
  clock := w.clock
  failure := w.vault.failure
  delay := w.vault.delay
  connectorFailure := w.connectorFailure
  environment := w.environment

/-- The same items are stored under the same conditions, and no client has been lost. -/
structure SameStore (w w' : World) : Prop where
  items : w'.vault.items = w.vault.items
  drawn : w'.vault.drawn = w.vault.drawn
  conditions : w'.conditions = w.conditions
  filled : ∀ slot ∈ w.filled, slot ∈ w'.filled

structure OnlyRead (w w' : World) : Prop extends SameStore w w' where
  writes : ∀ kind, kind.isWrite = true → w'.vault.calls.of kind = w.vault.calls.of kind

theorem SameStore.refl (w : World) : SameStore w w := ⟨rfl, rfl, rfl, fun _ h => h⟩

theorem SameStore.trans {w₁ w₂ w₃ : World} (h : SameStore w₁ w₂) (h' : SameStore w₂ w₃) :
    SameStore w₁ w₃ where
  items := h'.items.trans h.items
  drawn := h'.drawn.trans h.drawn
  conditions := h'.conditions.trans h.conditions
  filled := fun slot hs => h'.filled slot (h.filled slot hs)

theorem OnlyRead.refl (w : World) : OnlyRead w w := ⟨.refl w, fun _ _ => rfl⟩

theorem OnlyRead.trans {w₁ w₂ w₃ : World} (h : OnlyRead w₁ w₂) (h' : OnlyRead w₂ w₃) :
    OnlyRead w₁ w₃ :=
  ⟨h.toSameStore.trans h'.toSameStore,
    fun kind hk => (h'.writes kind hk).trans (h.writes kind hk)⟩

end World

namespace MemoryVault

def counted (v : MemoryVault) (kind : CallKind) : MemoryVault :=
  { v with calls := v.calls.count kind }

structure Answers (v : MemoryVault) (limit : Option Duration) : Prop where
  timely : v.isLate limit = false
  healthy : v.failure = none

variable {v : MemoryVault} {limit : Option Duration}

theorem enter_of_answers (h : v.Answers limit) (kind : CallKind) :
    v.enter kind limit = (.ok (), v.counted kind) := by
  simp [enter, MemoryVault.counted, h.timely, h.healthy]

theorem enter_of_not_answers (h : ¬ v.Answers limit) (kind : CallKind) :
    ∃ source, v.enter kind limit = (.error source, v.counted kind) := by
  by_cases hl : v.isLate limit = true
  · exact ⟨.timeout (limit.getD Duration.zero), by simp [enter, hl, MemoryVault.counted]⟩
  · cases hf : v.failure with
    | none => exact absurd ⟨by simpa using hl, hf⟩ h
    | some message => exact ⟨.client message, by simp [enter, hl, hf, MemoryVault.counted]⟩

theorem answerItems_of_answers (h : v.Answers limit) (now : Timestamp) (call : ItemsCall) :
    v.answerItems now limit call = (v.counted call.kind).itemsEffect now call := by
  simp [answerItems, enter_of_answers h]

theorem answerItems_of_not_answers (h : ¬ v.Answers limit) (now : Timestamp) (call : ItemsCall) :
    ∃ source, v.answerItems now limit call = (.error source, v.counted call.kind) := by
  obtain ⟨source, hs⟩ := enter_of_not_answers h call.kind
  exact ⟨source, by simp [answerItems, hs]⟩

theorem answerGateway_of_answers (h : v.Answers none) (now : Timestamp) (call : GatewayCall) :
    v.answerGateway now call = (v.counted call.kind).gatewayEffect now call := by
  simp [answerGateway, enter_of_answers h]

theorem answerGateway_of_not_answers (h : ¬ v.Answers none) (now : Timestamp)
    (call : GatewayCall) :
    ∃ source, v.answerGateway now call = (.error source, v.counted call.kind) := by
  obtain ⟨source, hs⟩ := enter_of_not_answers h call.kind
  exact ⟨source, by simp [answerGateway, hs]⟩

end MemoryVault

namespace World

theorem sameStore_counted (w : World) (kind : CallKind) :
    w.SameStore { w with vault := w.vault.counted kind } := ⟨rfl, rfl, rfl, fun _ h => h⟩

theorem onlyRead_counted (w : World) {kind : CallKind} (hk : kind.isWrite = false) :
    w.OnlyRead { w with vault := w.vault.counted kind } := by
  refine ⟨sameStore_counted w kind, fun other ho => ?_⟩
  have hne : kind ≠ other := fun he => by rw [he, ho] at hk; cases hk
  simp [MemoryVault.counted, CallCounts.of_count, hne]

end World

def Request.isRead : Request → Bool
  | .items _ call => !call.kind.isWrite
  | .gateway call => !call.kind.isWrite
  | _ => true

namespace World

theorem answer_items_onlyRead (w : World) (limit : Option Duration) {call : ItemsCall}
    (h : call.kind.isWrite = false) : w.OnlyRead (w.answer (.items limit call)).2 := by
  change w.OnlyRead { w with vault := (w.vault.answerItems w.clock limit call).2 }
  have hc := onlyRead_counted w h
  by_cases ha : w.vault.Answers limit
  · rw [MemoryVault.answerItems_of_answers ha]
    cases call with
    | list vaultId filter | get vaultId itemId => exact hc
    | create item | put item | delete vaultId itemId => cases h
  · obtain ⟨source, hs⟩ := MemoryVault.answerItems_of_not_answers ha w.clock call
    rw [hs]
    exact hc

theorem answer_gateway_onlyRead (w : World) {call : GatewayCall}
    (h : call.kind.isWrite = false) : w.OnlyRead (w.answer (.gateway call)).2 := by
  change w.OnlyRead { w with vault := (w.vault.answerGateway w.clock call).2 }
  have hc := onlyRead_counted w h
  by_cases ha : w.vault.Answers none
  · rw [MemoryVault.answerGateway_of_answers ha]
    cases call with
    | list vaultId | listByTitle title vaultId | get itemId vaultId => exact hc
    | create item vaultId | update item vaultId | delete itemId vaultId => cases h
  · obtain ⟨source, hs⟩ := MemoryVault.answerGateway_of_not_answers ha w.clock call
    rw [hs]
    exact hc

@[simp] theorem connect_snd (w : World) (auth : ClientAuth) (integration : Integration) :
    (w.connect auth integration).2 =
      { w with attempts := w.attempts ++ [(auth, integration)] } := by
  unfold connect
  cases w.connectorFailure <;> rfl

theorem answer_onlyRead (w : World) {r : Request} (h : r.isRead = true) :
    w.OnlyRead (w.answer r).2 := by
  cases r with
  | items limit call => exact answer_items_onlyRead w limit (by simpa [Request.isRead] using h)
  | gateway call => exact answer_gateway_onlyRead w (by simpa [Request.isRead] using h)
  | connect auth integration =>
    change w.OnlyRead (w.connect auth integration).2
    rw [connect_snd]
    exact ⟨⟨rfl, rfl, rfl, fun _ hs => hs⟩, fun _ _ => rfl⟩
  | fill slot =>
    exact ⟨⟨rfl, rfl, rfl, fun _ hs => List.mem_cons_of_mem _ hs⟩, fun _ _ => rfl⟩
  | http request | newSlot | isFilled slot | environment name | prompt prompt text | now
  | log entry => exact ⟨⟨rfl, rfl, rfl, fun _ hs => hs⟩, fun _ _ => rfl⟩

end World

section ReadOnly

variable {α β : Type}

def Program.ReadOnly (p : Program α) : Prop := ∀ w : World, w.OnlyRead (p.run w).2

def Action.ReadOnly (a : Action α) : Prop := ∀ w : World, w.OnlyRead (Action.run a w).2

namespace Program.ReadOnly

theorem pure (a : α) : Program.ReadOnly (Pure.pure a) := fun w => .refl w

theorem request {r : Request} (h : r.isRead = true) : Program.ReadOnly (Program.request r) :=
  fun w => w.answer_onlyRead h

theorem bind {p : Program α} {f : α → Program β} (hp : p.ReadOnly) (hf : ∀ a, (f a).ReadOnly) :
    Program.ReadOnly (p >>= f) := by
  intro w
  rw [run_monadBind]
  exact (hp w).trans (hf _ _)

end Program.ReadOnly

namespace Action.ReadOnly

theorem pure (a : α) : Action.ReadOnly (Pure.pure a) := fun w => .refl w

theorem throw (e : KeyringError) : Action.ReadOnly (MonadExcept.throw e : Action α) :=
  fun w => .refl w

theorem ofExcept (e : Except KeyringError α) : Action.ReadOnly (Action.ofExcept e) :=
  fun w => .refl w

theorem perform {p : Program α} (hp : p.ReadOnly) : Action.ReadOnly (Action.perform p) := by
  intro w
  rw [run_perform]
  exact hp w

theorem orFail {ε : Type} {p : Program (Except ε α)} (wrap : ε → KeyringError) (hp : p.ReadOnly) :
    Action.ReadOnly (Action.orFail p wrap) := by
  intro w
  rw [run_orFail]
  exact hp w

theorem log (level : LogLevel) (source : LogSource) (message : String) :
    Action.ReadOnly (Action.log level source message) := perform (.request rfl)

theorem bind {a : Action α} {f : α → Action β} (ha : a.ReadOnly) (hf : ∀ x, (f x).ReadOnly) :
    Action.ReadOnly (a >>= f) := by
  intro w
  have h := ha w
  rw [run_bind]
  split
  · rename_i x w' hr
    rw [hr] at h
    exact h.trans (hf x w')
  · rename_i e w' hr
    rwa [hr] at h

theorem map {a : Action α} (f : α → β) (ha : a.ReadOnly) : Action.ReadOnly (f <$> a) := by
  intro w
  rw [run_map]
  exact ha w

theorem tryCatch {a : Action α} {handle : KeyringError → Action α} (ha : a.ReadOnly)
    (hh : ∀ e, (handle e).ReadOnly) :
    Action.ReadOnly (MonadExcept.tryCatch a handle) := by
  intro w
  have h := ha w
  rw [run_tryCatch]
  split
  · rename_i x w' hr
    rwa [hr] at h
  · rename_i e w' hr
    rw [hr] at h
    exact h.trans (hh e w')

end Action.ReadOnly

def Action.Reads (a : Action α) (w : World) (r : Except KeyringError α) : Prop :=
  ∃ w', Action.run a w = (r, w') ∧ w.OnlyRead w'

namespace Action.Reads

theorem of_readOnly {a : Action α} (ha : a.ReadOnly) (w : World) :
    Action.Reads a w (Action.run a w).1 := ⟨_, rfl, ha w⟩

theorem ofExcept (e : Except KeyringError α) (w : World) :
    Action.Reads (Action.ofExcept e) w e := ⟨w, rfl, .refl w⟩

theorem pure (x : α) (w : World) : Action.Reads (Pure.pure x) w (.ok x) := ⟨w, rfl, .refl w⟩

theorem throw (e : KeyringError) (w : World) :
    Action.Reads (MonadExcept.throw e : Action α) w (.error e) := ⟨w, rfl, .refl w⟩

theorem perform {p : Program α} (hp : p.ReadOnly) (w : World) :
    Action.Reads (Action.perform p) w (.ok (p.run w).1) := ⟨_, run_perform p w, hp w⟩

theorem bind_ok {a : Action α} {f : α → Action β} {w : World} {x : α} {r : Except KeyringError β}
    (ha : a.Reads w (.ok x)) (hf : ∀ w', w.OnlyRead w' → (f x).Reads w' r) :
    Action.Reads (a >>= f) w r := by
  obtain ⟨w₁, h₁, ho₁⟩ := ha
  obtain ⟨w₂, h₂, ho₂⟩ := hf w₁ ho₁
  exact ⟨w₂, (run_bind_ok h₁).trans h₂, ho₁.trans ho₂⟩

theorem bind_error {a : Action α} {f : α → Action β} {w : World} {e : KeyringError}
    (ha : a.Reads w (.error e)) : Action.Reads (a >>= f) w (.error e) := by
  obtain ⟨w', h, ho⟩ := ha
  exact ⟨w', run_bind_error h, ho⟩

theorem map {a : Action α} {w : World} {r : Except KeyringError α} (f : α → β)
    (ha : a.Reads w r) : Action.Reads (f <$> a) w (r.map f) := by
  obtain ⟨w', h, ho⟩ := ha
  exact ⟨w', by rw [run_map, h], ho⟩

theorem tryCatch_ok {a : Action α} {handle : KeyringError → Action α} {w : World} {x : α}
    (ha : a.Reads w (.ok x)) : Action.Reads (MonadExcept.tryCatch a handle) w (.ok x) := by
  obtain ⟨w', h, ho⟩ := ha
  exact ⟨w', run_tryCatch_ok h, ho⟩

theorem tryCatch_error {a : Action α} {handle : KeyringError → Action α} {w : World}
    {e : KeyringError} {r : Except KeyringError α} (ha : a.Reads w (.error e))
    (hh : ∀ w', w.OnlyRead w' → (handle e).Reads w' r) :
    Action.Reads (MonadExcept.tryCatch a handle) w r := by
  obtain ⟨w₁, h₁, ho₁⟩ := ha
  obtain ⟨w₂, h₂, ho₂⟩ := hh w₁ ho₁
  exact ⟨w₂, (run_tryCatch_error h₁).trans h₂, ho₁.trans ho₂⟩

theorem log_bind {level : LogLevel} {source : LogSource} {message : String}
    {f : Unit → Action α} {w : World} {r : Except KeyringError α}
    (hf : ∀ w', w.OnlyRead w' → (f ()).Reads w' r) :
    Action.Reads (Action.log level source message >>= f) w r :=
  bind_ok (of_readOnly (.log level source message) w) hf

end Action.Reads

end ReadOnly

end VaultRing
