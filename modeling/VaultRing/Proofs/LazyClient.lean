import VaultRing.Proofs.Requests

namespace VaultRing

section Credentials

def TokenSource.resolved (s : TokenSource) (text : String) (env : Environment) :
    Except KeyringError String :=
  match s.names.findSome? env.value? with
  | some token => .ok token
  | none =>
    match s.prompt with
    | none => .error (.config [.noToken s.backend])
    | some prompt => (prompt.ask text).mapError .prompt

def LazyAuth.resolved (auth : LazyAuth) (env : Environment) : Except KeyringError ClientAuth :=
  match auth with
  | .desktop account => .ok (.desktopAccount account)
  | .serviceAccount tokens => (tokens.resolved tokenPrompt env).map .serviceAccountToken

theorem LazyAuth.resolve_result (auth : LazyAuth) (w : World) :
    (Action.run auth.resolve w).1 = auth.resolved w.environment := by
  cases auth with
  | desktop account => rfl
  | serviceAccount tokens =>
    unfold LazyAuth.resolve
    rw [Action.run_map, TokenSource.resolve_result]
    rfl

theorem LazyAuth.available_or_fails (auth : LazyAuth) (w : World) :
    auth.Available w.environment ∧ (∃ a, auth.resolved w.environment = .ok a) ∨
      ∃ e, e.isOutside = true ∧ auth.resolved w.environment = .error e := by
  rw [← auth.resolve_result w]
  by_cases ha : auth.Available w.environment
  · obtain ⟨a, w', hr, -⟩ := resolve_reads ha
    exact .inl ⟨ha, a, congrArg Prod.fst hr⟩
  · obtain ⟨e, ho, w', hr, -⟩ := resolve_fails ha
    exact .inr ⟨e, ho, congrArg Prod.fst hr⟩

end Credentials

/-- What an operation is going to fail with for want of a client. -/
def Transport.fault? (t : Transport) (w : World) : Option KeyringError :=
  match t with
  | .lazy slot backend auth _ =>
    if slot ∈ w.filled then none
    else
      match auth.resolved w.environment with
      | .error e => some e
      | .ok _ => w.connectorFailure.map fun message => .clientInit backend (.client message)
  | .standard .. | .connect _ => none

namespace Transport

variable {t : Transport} {w : World} {e : KeyringError}

theorem ready_of_no_fault (ho : t.OverVault) (h : t.fault? w = none) : t.Ready w := by
  cases t with
  | standard backend limit => trivial
  | lazy slot backend auth limit =>
    simp only [fault?] at h
    split at h
    · rename_i hs
      exact .inl hs
    · rcases auth.available_or_fails w with ⟨ha, a, hr⟩ | ⟨e, -, hr⟩
      · rw [hr] at h
        exact .inr ⟨Option.map_eq_none_iff.mp h, ha⟩
      · rw [hr] at h
        cases h
  | connect client =>
    cases client with
    | vault => trivial
    | http c => exact ho

theorem isOutside_of_fault (h : t.fault? w = some e) : e.isOutside = true := by
  cases t with
  | standard backend limit | connect client => cases h
  | lazy slot backend auth limit =>
    simp only [fault?] at h
    split at h
    · cases h
    · rcases auth.available_or_fails w with ⟨-, a, hr⟩ | ⟨e', ho, hr⟩
      · rw [hr] at h
        obtain ⟨message, -, rfl⟩ := Option.map_eq_some_iff.mp h
        rfl
      · rw [hr] at h
        obtain rfl := Option.some.inj h
        exact ho

theorem fault?_congr {w' : World} (he : w'.environment = w.environment)
    (hc : w'.connectorFailure = w.connectorFailure)
    (hs : ∀ slot, t.slot? = some slot → (slot ∈ w'.filled ↔ slot ∈ w.filled)) :
    t.fault? w' = t.fault? w := by
  cases t with
  | standard backend limit | connect client => rfl
  | lazy slot backend auth limit => simp only [fault?, he, hc, hs slot rfl]

end Transport

namespace World

structure NothingBuilt (w w' : World) : Prop extends OnlyRead w w' where
  empty : ∀ slot ∈ w'.filled, slot ∈ w.filled

variable {w w₁ w₂ w₃ : World}

theorem NothingBuilt.refl (w : World) : w.NothingBuilt w := ⟨.refl w, fun _ h => h⟩

theorem NothingBuilt.trans (h : w₁.NothingBuilt w₂) (h' : w₂.NothingBuilt w₃) :
    w₁.NothingBuilt w₃ :=
  ⟨h.toOnlyRead.trans h'.toOnlyRead, fun slot hs => h.empty slot (h'.empty slot hs)⟩

theorem NothingBuilt.mem_filled_iff {w' : World} (h : w.NothingBuilt w') (slot : Slot) :
    slot ∈ w'.filled ↔ slot ∈ w.filled := ⟨h.empty slot, h.filled slot⟩

theorem NothingBuilt.fault?_eq {w' : World} (h : w.NothingBuilt w') (t : Transport) :
    t.fault? w' = t.fault? w :=
  Transport.fault?_congr (congrArg Conditions.environment h.conditions)
    (congrArg Conditions.connectorFailure h.conditions) fun slot _ => h.mem_filled_iff slot

theorem nothingBuilt_log (w : World) (entry : LogEntry) :
    w.NothingBuilt { w with logger := w.logger.add entry } :=
  ⟨⟨⟨rfl, rfl, rfl, fun _ h => h⟩, fun _ _ => rfl⟩, fun _ h => h⟩

theorem nothingBuilt_connect (w : World) (a : ClientAuth) (integration : Integration) :
    w.NothingBuilt (w.connect a integration).2 := by
  rw [connect_snd]
  exact ⟨⟨⟨rfl, rfl, rfl, fun _ h => h⟩, fun _ _ => rfl⟩, fun _ h => h⟩

theorem nothingBuilt_resolve (w : World) (auth : LazyAuth) :
    w.NothingBuilt (Action.run auth.resolve w).2 := by
  refine ⟨auth.resolve_readOnly w, fun slot hs => ?_⟩
  have hempty : ¬ Request.AsksForCredentials (.fill slot) := id
  exact ((Transport.resolve_asksOnly auth).mem_filled_run hempty w).mp hs

end World

theorem Action.log_run (w : World) (level : LogLevel) (source : LogSource) (message : String) :
    Action.run (Action.log level source message) w =
      (.ok (), { w with logger := w.logger.add ⟨level, source, message⟩ }) := rfl

/-- From `w` on, `a` gets as far as the client of `t`: without it, `a` fails and is of no account;
else the client is there afterwards. -/
structure Action.Opens {α : Type} (t : Transport) (a : Action α) (w : World) : Prop where
  refused : ∀ e, t.fault? w = some e → ∃ w', Action.run a w = (.error e, w') ∧ w.NothingBuilt w'
  built : t.fault? w = none → ∀ slot, t.slot? = some slot → slot ∈ (Action.run a w).2.filled

namespace Action.Opens

variable {α β : Type} {t : Transport} {a : Action α} {w : World}

theorem of_no_slot (h : t.slot? = none) : a.Opens t w := by
  constructor
  · intro e he
    cases t with
    | standard backend limit | connect client => cases he
    | lazy slot backend auth limit => cases h
  · intro _ slot hs
    rw [h] at hs
    cases hs

/-- What comes after the client is there does not take it away. -/
theorem bind (h : a.Opens t w) (f : α → Action β) : Action.Opens t (a >>= f) w := by
  constructor
  · intro e he
    obtain ⟨w', hr, hn⟩ := h.refused e he
    exact ⟨w', run_bind_error hr, hn⟩
  · intro hf slot hs
    have hfilled := h.built hf slot hs
    cases hr : Action.run a w with
    | mk result w' =>
      rw [hr] at hfilled
      cases result with
      | ok x =>
        rw [run_bind_ok hr]
        exact Program.filled_run hfilled
      | error e => rwa [run_bind_error hr]

theorem map (h : a.Opens t w) (f : α → β) : Action.Opens t (f <$> a) w := by
  constructor
  · intro e he
    obtain ⟨w', hr, hn⟩ := h.refused e he
    exact ⟨w', by rw [run_map, hr]; rfl, hn⟩
  · intro hf slot hs
    rw [run_map]
    exact h.built hf slot hs

/-- A fault from outside is passed on by whoever handles only other errors. -/
theorem tryCatch {handle : KeyringError → Action α} (h : a.Opens t w)
    (hh : ∀ e w, e.isOutside = true →
      ∃ w', Action.run (handle e) w = (.error e, w') ∧ w.NothingBuilt w') :
    Action.Opens t (MonadExcept.tryCatch a handle) w := by
  constructor
  · intro e he
    obtain ⟨w₁, hr, hn⟩ := h.refused e he
    obtain ⟨w₂, hr', hn'⟩ := hh e w₁ (Transport.isOutside_of_fault he)
    exact ⟨w₂, (run_tryCatch_error hr).trans hr', hn.trans hn'⟩
  · intro hf slot hs
    have hfilled := h.built hf slot hs
    cases hr : Action.run a w with
    | mk result w' =>
      rw [hr] at hfilled
      cases result with
      | ok x => rwa [run_tryCatch_ok hr]
      | error e =>
        rw [run_tryCatch_error hr]
        exact Program.filled_run hfilled

theorem log_bind {level : LogLevel} {source : LogSource} {message : String} {f : Unit → Action α}
    (hf : ∀ w', (f ()).Opens t w') : Action.Opens t (Action.log level source message >>= f) w := by
  have hlog := w.nothingBuilt_log ⟨level, source, message⟩
  have hrun : Action.run (Action.log level source message >>= f) w = Action.run (f ()) _ :=
    run_bind_ok (log_run ..)
  constructor
  · intro e he
    obtain ⟨w', hr, hn⟩ := (hf _).refused e ((hlog.fault?_eq t).trans he)
    exact ⟨w', hrun.trans hr, hlog.trans hn⟩
  · intro hfault slot hs
    rw [hrun]
    exact (hf _).built ((hlog.fault?_eq t).trans hfault) slot hs

end Action.Opens

namespace Transport

variable {slot : Slot} {backend : Backend} {auth : LazyAuth} {limit : Duration} {w w₁ : World}

theorem connect_run {result : Except TransportError Unit} (a : ClientAuth)
    (h : (w.connect a integration).1 = result) :
    Action.run (Action.perform (Program.connect a integration)) w =
      (.ok result, (w.connect a integration).2) := by
  rw [Action.run_perform, ← h]
  rfl

theorem connectClient_fails (slot : Slot) (backend : Backend) (a : ClientAuth) {message : String}
    (hm : w.connectorFailure = some message) :
    ∃ w', Action.run (connectClient slot backend a) w =
        (.error (.clientInit backend (.client message)), w') ∧ w.NothingBuilt w' := by
  have hfails : (w.connect a integration).1 = .error (.client message) := by
    rw [World.connect_result, hm]
  refine ⟨_, (Action.run_bind_ok (connect_run a hfails)).trans
    (Action.run_bind_ok (Action.log_run ..)), ?_⟩
  exact (w.nothingBuilt_connect a integration).trans (World.nothingBuilt_log _ _)

theorem connectClient_fills (slot : Slot) (backend : Backend) (a : ClientAuth)
    (hm : w.connectorFailure = none) :
    slot ∈ (Action.run (connectClient slot backend a) w).2.filled := by
  have hconnects : (w.connect a integration).1 = .ok () := by
    rw [World.connect_result, hm]
  have hrun : Action.run (connectClient slot backend a) w =
      Action.run (Action.perform (Program.fill slot)) (w.connect a integration).2 :=
    Action.run_bind_ok (connect_run a hconnects)
  rw [hrun]
  exact List.mem_cons_self

theorem buildClient_run (slot : Slot) (backend : Backend) {a : ClientAuth}
    (hr : Action.run auth.resolve w = (.ok a, w₁)) :
    ∃ w₂, w₁.NothingBuilt w₂ ∧ Action.run (buildClient slot backend auth) w =
      Action.run (connectClient slot backend a) w₂ :=
  ⟨_, w₁.nothingBuilt_log _, (Action.run_bind_ok hr).trans (Action.run_bind_ok (Action.log_run ..))⟩

theorem buildClient_opens (hs : slot ∉ w.filled) :
    (buildClient slot backend auth).Opens (.lazy slot backend auth limit) w := by
  have hresolved := auth.resolve_result w
  have hresolve := w.nothingBuilt_resolve auth
  cases hr : Action.run auth.resolve w with
  | mk result w₁ =>
    rw [hr] at hresolve hresolved
    have hconnector : w₁.connectorFailure = w.connectorFailure :=
      congrArg Conditions.connectorFailure hresolve.conditions
    constructor
    · intro e h
      simp only [fault?, if_neg hs, ← hresolved] at h
      cases result with
      | error e' =>
        obtain rfl := Option.some.inj h
        exact ⟨w₁, Action.run_bind_error hr, hresolve⟩
      | ok a =>
        obtain ⟨message, hm, rfl⟩ := Option.map_eq_some_iff.mp h
        obtain ⟨w₂, hlog, hrun⟩ := buildClient_run slot backend hr
        have hm₂ : w₂.connectorFailure = some message :=
          (congrArg Conditions.connectorFailure hlog.conditions).trans (hconnector.trans hm)
        obtain ⟨w', hfails, hn⟩ := connectClient_fails slot backend a hm₂
        exact ⟨w', hrun.trans hfails, hresolve.trans (hlog.trans hn)⟩
    · intro h other ho
      obtain rfl := Option.some.inj ho
      simp only [fault?, if_neg hs, ← hresolved] at h
      cases result with
      | error e => cases h
      | ok a =>
        obtain ⟨w₂, hlog, hrun⟩ := buildClient_run slot backend hr
        rw [hrun]
        exact connectClient_fills slot backend a
          ((congrArg Conditions.connectorFailure hlog.conditions).trans
            (hconnector.trans (Option.map_eq_none_iff.mp h)))

theorem ensureClient_opens (slot : Slot) (backend : Backend) (auth : LazyAuth) (limit : Duration)
    (w : World) : (ensureClient slot backend auth).Opens (.lazy slot backend auth limit) w := by
  by_cases hs : slot ∈ w.filled
  · constructor
    · intro e h
      simp only [fault?, if_pos hs] at h
      cases h
    · intro _ other ho
      obtain rfl := Option.some.inj ho
      rwa [ensureClient_run_filled hs]
  · have hbuild : (buildClient slot backend auth).Opens (.lazy slot backend auth limit) w :=
      buildClient_opens hs
    have hrun := ensureClient_run_empty hs backend auth
    exact ⟨fun e h => hrun ▸ hbuild.refused e h, fun h => hrun ▸ hbuild.built h⟩

theorem managedItems_opens (t : Transport) (scope : Scope) (title : Option String) (w : World) :
    (t.managedItems scope title).Opens t w := by
  cases t with
  | standard backend limit | connect client => exact .of_no_slot rfl
  | lazy slot backend auth limit => exact (ensureClient_opens slot backend auth limit w).bind _

end Transport

namespace Keyring

variable (k : Keyring) (w : World)

theorem find_opens (key : String) : (k.find key).Opens k.transport w :=
  (k.transport.managedItems_opens _ _ w).bind _

theorem find?_opens (key : String) : (k.find? key).Opens k.transport w := by
  refine ((k.find_opens w key).map some).tryCatch fun e w' ho => ?_
  rw [if_neg (by simp [KeyringError.isNotFound_of_isOutside ho])]
  exact ⟨_, Action.run_bind_ok (Action.log_run ..), w'.nothingBuilt_log _⟩

theorem get_opens (key : String) : (k.get key).Opens k.transport w :=
  .log_bind fun w' => (k.find_opens w' key).bind _

theorem has_opens (key : String) : (k.has key).Opens k.transport w := by
  refine ((k.get_opens w key).bind _).tryCatch fun e w' ho => ?_
  rw [if_neg (by simp [KeyringError.isNotFound_of_isOutside ho])]
  exact ⟨w', rfl, .refl w'⟩

theorem getMetadata_opens (key : String) : (k.getMetadata key).Opens k.transport w := by
  refine ((k.find_opens w key).bind _).tryCatch fun e w' ho => ?_
  rw [if_neg (by simp [KeyringError.isNotFound_of_isOutside ho])]
  exact ⟨w', rfl, .refl w'⟩

theorem perform_opens (operation : Operation) : (k.perform operation).Opens k.transport w := by
  cases operation with
  | get key => exact (k.get_opens w key).map _
  | has key => exact (k.has_opens w key).map _
  | getMetadata key => exact (k.getMetadata_opens w key).map _
  | set item => exact ((k.find?_opens w item.key).bind _).map _
  | remove key => exact ((k.find_opens w key).bind _).map _
  | keys => exact ((k.transport.managedItems_opens _ _ w).bind _).map _

end Keyring

end VaultRing
