import VaultRing.Proofs.RequestTrace

namespace VaultRing

structure LazyClient where
  slot : Slot
  backend : Backend
  auth : LazyAuth
  limit : Duration

namespace LazyClient

def transport (c : LazyClient) : Transport := .lazy c.slot c.backend c.auth c.limit

def direct (c : LazyClient) : Transport := .standard c.backend c.limit

end LazyClient

section Credentials

def TokenSource.looked (env : Environment) : List String → List Asked
  | [] => []
  | name :: names =>
    .looked name (env.value? name) ::
      match env.value? name with
      | some _ => []
      | none => looked env names

def LazyAuth.sought (auth : LazyAuth) (env : Environment) : List Asked :=
  match auth with
  | .desktop _ => []
  | .serviceAccount tokens =>
    TokenSource.looked env tokens.names ++
      match tokens.names.findSome? env.value?, tokens.prompt with
      | none, some prompt => [.prompted prompt tokenPrompt (prompt.ask tokenPrompt)]
      | _, _ => []

theorem TokenSource.firstSet_asked (names : List String) (w : World) :
    (TokenSource.firstSet names).asked w = looked w.environment names := by
  induction names with
  | nil => rfl
  | cons name names ih =>
    refine (Program.asked_bind (Program.lookup name) _ w).trans ?_
    change .looked name (w.environment.value? name) ::
      Program.asked (match w.environment.value? name with
        | some value => pure (some value)
        | none => TokenSource.firstSet names) w = _
    rw [looked]
    cases w.environment.value? name with
    | some value => rfl
    | none => exact congrArg (_ :: ·) ih

theorem LazyAuth.resolve_asked (auth : LazyAuth) (w : World) :
    auth.resolve.asked w = auth.sought w.environment := by
  cases auth with
  | desktop account => rfl
  | serviceAccount tokens =>
    have hset : Action.run (Action.perform (TokenSource.firstSet tokens.names)) w =
        (.ok (tokens.names.findSome? w.environment.value?), w) := by
      rw [Action.run_perform, TokenSource.firstSet_run]
    refine (Action.asked_map _ _ w).trans ((Action.asked_bind_ok hset).trans ?_)
    rw [Action.asked_perform, TokenSource.firstSet_asked, sought]
    cases tokens.names.findSome? w.environment.value? with
    | some token => rfl
    | none => cases tokens.prompt <;> rfl

end Credentials

section Dealings

variable {α β : Type} {a : Action α} {f : α → Action β} {w w' : World} {x : α} {e : KeyringError}

def Request.isIdle : Request → Bool
  | .log _ | .isFilled _ => true
  | _ => false

def Action.dealings (a : Action α) (w : World) : List Asked := (a.asked w).filter (!·.1.isIdle)

namespace Action

theorem dealings_bind_ok (h : Action.run a w = (.ok x, w')) :
    Action.dealings (a >>= f) w = a.dealings w ++ (f x).dealings w' := by
  rw [dealings, asked_bind_ok h, List.filter_append, dealings, dealings]

theorem dealings_bind_error (h : Action.run a w = (.error e, w')) :
    Action.dealings (a >>= f) w = a.dealings w := by
  rw [dealings, asked_bind_error h, dealings]

theorem dealings_andThen (a : Action α) (f : Except KeyringError α → Action β) (w : World) :
    (a.andThen f).dealings w =
      a.dealings w ++ (f (Action.run a w).1).dealings (Action.run a w).2 := by
  rw [dealings, asked_andThen, List.filter_append, dealings, dealings]

theorem dealings_log_bind {level : LogLevel} {source : LogSource} {message : String}
    {f : Unit → Action β} :
    Action.dealings (Action.log level source message >>= f) w =
      (f ()).dealings { w with logger := w.logger.add ⟨level, source, message⟩ } := by
  rw [dealings_bind_ok (log_run ..)]
  rfl

end Action

def LazyClient.opening (c : LazyClient) (w : World) : List Asked :=
  c.auth.sought w.environment ++
    match c.auth.resolved w.environment with
    | .error _ => []
    | .ok a =>
      match w.connectorFailure with
      | some message => [.connecting a (.error (.client message))]
      | none => [.connecting a (.ok ()), .filling c.slot]

theorem LazyAuth.resolve_dealings (auth : LazyAuth) (w : World) :
    auth.resolve.dealings w = auth.sought w.environment := by
  rw [← auth.resolve_asked w]
  refine List.filter_eq_self.mpr fun x hx => ?_
  have hasks : x.1.AsksForCredentials := (Transport.resolve_asksOnly auth).of_mem_asked hx
  obtain ⟨r, answer⟩ := x
  cases r with
  | environment name | prompt prompt text => rfl
  | _ => exact absurd hasks id

theorem Transport.connect_asked {result : Except TransportError Unit} (a : ClientAuth)
    (h : (w.connect a integration).1 = result) :
    Action.asked (Action.perform (Program.connect a integration)) w = [.connecting a result] := by
  rw [Action.asked_perform, ← h]
  rfl

theorem Transport.connectClient_dealings (slot : Slot) (backend : Backend) (a : ClientAuth)
    (w : World) :
    (connectClient slot backend a).dealings w =
      match w.connectorFailure with
      | some message => [.connecting a (.error (.client message))]
      | none => [.connecting a (.ok ()), .filling slot] := by
  have hresult := w.connect_result a integration
  cases hm : w.connectorFailure with
  | some message | none =>
    rw [hm] at hresult
    refine (Action.dealings_bind_ok (connect_run a hresult)).trans ?_
    rw [Action.dealings, connect_asked a hresult]
    rfl

theorem LazyClient.buildClient_dealings (c : LazyClient) (w : World) :
    (Transport.buildClient c.slot c.backend c.auth).dealings w = c.opening w := by
  have hresult := c.auth.resolve_result w
  have hbuilt := w.nothingBuilt_resolve c.auth
  cases hr : Action.run c.auth.resolve w with
  | mk result w₁ =>
    rw [hr] at hresult hbuilt
    have hconnector : w₁.connectorFailure = w.connectorFailure :=
      congrArg Conditions.connectorFailure hbuilt.conditions
    unfold opening
    rw [← hresult, ← LazyAuth.resolve_dealings, ← hconnector]
    cases result with
    | error e => exact (Action.dealings_bind_error hr).trans (List.append_nil _).symm
    | ok a =>
      refine (Action.dealings_bind_ok hr).trans (congrArg _ ?_)
      exact Action.dealings_log_bind.trans (Transport.connectClient_dealings c.slot c.backend a _)

theorem Action.mem_dealings_iff {x : Asked} :
    x ∈ a.dealings w ↔ x ∈ a.asked w ∧ x.1.isIdle = false := by
  simp [dealings]

theorem Action.run_vault_of_dealings (h : ∀ x ∈ a.dealings w, x.1.callsVault = false) :
    (Action.run a w).2.vault = w.vault := by
  refine Program.run_vault fun x hx => ?_
  cases hidle : x.1.isIdle with
  | false => exact h x (mem_dealings_iff.mpr ⟨hx, hidle⟩)
  | true =>
    obtain ⟨r, answer⟩ := x
    cases r with
    | log entry | isFilled slot => rfl
    | _ => cases hidle

theorem Action.mem_filled_run_iff (a : Action α) (w : World) (slot : Slot) :
    slot ∈ (Action.run a w).2.filled ↔
      slot ∈ w.filled ∨ ∃ x ∈ a.dealings w, x.1 = .fill slot := by
  refine (Program.mem_filled_run_iff _ w slot).trans (or_congr_right ?_)
  constructor
  · rintro ⟨x, hx, he⟩
    exact ⟨x, mem_dealings_iff.mpr ⟨hx, by rw [he]; rfl⟩, he⟩
  · rintro ⟨x, hx, he⟩
    exact ⟨x, (mem_dealings_iff.mp hx).1, he⟩

theorem Action.AsksOnly.run_sameVault {backend : Backend} {limit : Duration}
    (h : a.AsksOnly (Transport.standard backend limit).MayAsk) (hw : w.SameVault w') :
    (Action.run a w').1 = (Action.run a w).1 ∧ (Action.run a w).2.SameVault (Action.run a w').2 ∧
      a.dealings w' = a.dealings w := by
  obtain ⟨hresult, hafter, hasked⟩ := Program.AsksOnly.run_sameVault h hw
  exact ⟨hresult, hafter, congrArg (List.filter _) hasked⟩

theorem LazyAuth.sought_asks (auth : LazyAuth) (w : World) :
    ∀ x ∈ auth.sought w.environment, x.1.AsksForCredentials := by
  rw [← auth.resolve_asked w]
  exact fun x => (Transport.resolve_asksOnly auth).of_mem_asked

namespace LazyClient

variable (c : LazyClient)

theorem opening_callsVault (w : World) : ∀ x ∈ c.opening w, x.1.callsVault = false := by
  intro x hx
  rcases List.mem_append.mp hx with hx | hx
  · have hasks := c.auth.sought_asks w x hx
    obtain ⟨r, answer⟩ := x
    cases r with
    | environment name | prompt prompt text => rfl
    | _ => exact absurd hasks id
  · split at hx
    · cases hx
    · split at hx <;> simp at hx
      · rw [hx]
        rfl
      · rcases hx with rfl | rfl <;> rfl

theorem ensureClient_dealings_filled (h : c.slot ∈ w.filled) :
    (Transport.ensureClient c.slot c.backend c.auth).dealings w = [] := by
  have hlook : Action.run (Action.perform (Program.isFilled c.slot)) w = (.ok true, w) := by
    rw [Action.run_perform]
    exact congrArg (fun filled => (Except.ok filled, w)) (List.contains_iff_mem.mpr h)
  exact Action.dealings_bind_ok hlook

theorem ensureClient_dealings_empty (h : c.slot ∉ w.filled) :
    (Transport.ensureClient c.slot c.backend c.auth).dealings w = c.opening w := by
  have hempty : w.filled.contains c.slot = false := by simpa using h
  have hlook : Action.run (Action.perform (Program.isFilled c.slot)) w = (.ok false, w) := by
    rw [Action.run_perform]
    exact congrArg (fun filled => (Except.ok filled, w)) hempty
  rw [← c.buildClient_dealings]
  exact Action.dealings_bind_ok hlook

end LazyClient

end Dealings

section Relations

variable {α β : Type} {c : LazyClient}

/-- With the client in its slot, `a` is the same as `b`, which asks for nothing but calls of a
client that is there. -/
structure LazyClient.Later (c : LazyClient) (a b : Action α) : Prop where
  run : ∀ w, c.slot ∈ w.filled → Action.run a w = Action.run b w ∧ a.dealings w = b.dealings w
  asks : b.AsksOnly c.direct.MayAsk

structure LazyClient.Lazily (c : LazyClient) (a b : Action α) : Prop extends c.Later a b where
  refused : ∀ w e, c.transport.fault? w = some e →
    (∃ w', Action.run a w = (.error e, w')) ∧ a.dealings w = c.opening w
  built : ∀ w, c.slot ∉ w.filled → c.transport.fault? w = none →
    (Action.run a w).1 = (Action.run b w).1 ∧ (Action.run b w).2.SameVault (Action.run a w).2 ∧
      c.slot ∈ (Action.run a w).2.filled ∧ a.dealings w = c.opening w ++ b.dealings w

namespace LazyClient.Later

theorem refl {a : Action α} (h : a.AsksOnly c.direct.MayAsk) : c.Later a a :=
  ⟨fun _ _ => ⟨rfl, rfl⟩, h⟩

theorem andThen {a b : Action α} {f g : Except KeyringError α → Action β} (h : c.Later a b)
    (hf : ∀ result, c.Later (f result) (g result)) : c.Later (a.andThen f) (b.andThen g) := by
  refine ⟨fun w hs => ?_, .andThen h.asks fun result => (hf result).asks⟩
  obtain ⟨hrun, hdealings⟩ := h.run w hs
  have hfilled : c.slot ∈ (Action.run a w).2.filled := Program.filled_run hs
  obtain ⟨hrun', hdealings'⟩ := (hf (Action.run a w).1).run _ hfilled
  rw [Action.run_andThen, Action.run_andThen, Action.dealings_andThen, Action.dealings_andThen,
    ← hrun, ← hdealings, hrun', hdealings']
  exact ⟨rfl, rfl⟩

theorem onSuccess {f g : α → Action β} (hf : ∀ x, c.Later (f x) (g x)) :
    ∀ result, c.Later (Action.onSuccess f result) (Action.onSuccess g result)
  | .ok x => hf x
  | .error e => .refl (.throw e)

theorem onFailure {handle handle' : KeyringError → Action α}
    (hh : ∀ e, c.Later (handle e) (handle' e)) :
    ∀ result, c.Later (Action.onFailure handle result) (Action.onFailure handle' result)
  | .ok x => .refl (.pure x)
  | .error e => hh e

theorem bind {a b : Action α} {f g : α → Action β} (h : c.Later a b)
    (hf : ∀ x, c.Later (f x) (g x)) : c.Later (a >>= f) (b >>= g) := by
  rw [Action.bind_eq_andThen, Action.bind_eq_andThen]
  exact h.andThen (onSuccess hf)

theorem ensure {b : Action α} (h : b.AsksOnly c.direct.MayAsk) :
    c.Later (Transport.ensureClient c.slot c.backend c.auth >>= fun _ => b) b := by
  refine ⟨fun w hs => ?_, h⟩
  have hrun := Transport.ensureClient_run_filled hs c.backend c.auth
  rw [Action.run_bind_ok hrun, Action.dealings_bind_ok hrun, c.ensureClient_dealings_filled hs]
  exact ⟨rfl, rfl⟩

end LazyClient.Later

namespace LazyClient.Lazily

theorem ensure {b : Action α} (h : b.AsksOnly c.direct.MayAsk) :
    c.Lazily (Transport.ensureClient c.slot c.backend c.auth >>= fun _ => b) b := by
  refine { toLater := .ensure h, refused := fun w e he => ?_, built := fun w hs hf => ?_ }
  · have hs : c.slot ∉ w.filled := fun hs => by simp [Transport.fault?, transport, hs] at he
    have hopens := Transport.ensureClient_opens c.slot c.backend c.auth c.limit w
    obtain ⟨w', hr, -⟩ := hopens.refused e he
    refine ⟨⟨w', Action.run_bind_error hr⟩, ?_⟩
    rw [Action.dealings_bind_error hr, c.ensureClient_dealings_empty hs]
  · have hopens := Transport.ensureClient_opens c.slot c.backend c.auth c.limit w
    have hfilled : c.slot ∈ _ := hopens.built hf c.slot rfl
    have hready : c.transport.Ready w := Transport.ready_of_no_fault trivial hf
    obtain ⟨w₁, hr, ho⟩ : (Transport.ensureClient c.slot c.backend c.auth).Reads w (.ok ()) :=
      ((Transport.ensureClient_reads c.slot c.backend c.auth c.limit w).resolve_right
        fun hn => hn.1 hready).2
    have hdealings := c.ensureClient_dealings_empty hs
    have hvault := Action.run_vault_of_dealings (hdealings ▸ c.opening_callsVault w)
    rw [hr] at hfilled hvault
    obtain ⟨hresult, hsame, hlater⟩ := h.run_sameVault ⟨hvault, ho.clock_eq⟩
    rw [Action.run_bind_ok hr, Action.dealings_bind_ok hr, hdealings, hlater]
    exact ⟨hresult, hsame, Program.filled_run hfilled, rfl⟩

/-- A refusal gets through if `f` passes it on. -/
theorem andThen {a b : Action α} {f g : Except KeyringError α → Action β} (h : c.Lazily a b)
    (hf : ∀ result, c.Later (f result) (g result))
    (hpass : ∀ e w, e.isOutside = true →
      (∃ w', Action.run (f (.error e)) w = (.error e, w')) ∧ (f (.error e)).dealings w = []) :
    c.Lazily (a.andThen f) (b.andThen g) := by
  refine { toLater := h.toLater.andThen hf, refused := fun w e he => ?_
           built := fun w hs hn => ?_ }
  · obtain ⟨⟨w', hr⟩, hdealings⟩ := h.refused w e he
    obtain ⟨hrun, hnothing⟩ := hpass e w' (Transport.isOutside_of_fault he)
    rw [Action.run_andThen, Action.dealings_andThen, hr, hdealings, hnothing, List.append_nil]
    exact ⟨hrun, rfl⟩
  · obtain ⟨hresult, hsame, hfilled, hdealings⟩ := h.built w hs hn
    obtain ⟨hrun, hlater⟩ := (hf (Action.run a w).1).run _ hfilled
    obtain ⟨hresult', hsame', hafter⟩ := (hf (Action.run a w).1).asks.run_sameVault hsame
    rw [Action.run_andThen, Action.run_andThen, Action.dealings_andThen, Action.dealings_andThen,
      ← hresult, hdealings, hlater, hrun, hafter, List.append_assoc]
    exact ⟨hresult', hsame', Program.filled_run hfilled, rfl⟩

theorem bind {a b : Action α} {f g : α → Action β} (h : c.Lazily a b)
    (hf : ∀ x, c.Later (f x) (g x)) : c.Lazily (a >>= f) (b >>= g) := by
  rw [Action.bind_eq_andThen, Action.bind_eq_andThen]
  exact h.andThen (.onSuccess hf) fun e w _ => ⟨⟨w, rfl⟩, rfl⟩

theorem map {a b : Action α} (h : c.Lazily a b) (f : α → β) : c.Lazily (f <$> a) (f <$> b) := by
  rw [Action.map_eq_andThen, Action.map_eq_andThen]
  exact h.andThen (.onSuccess fun x => .refl (.pure (f x))) fun e w _ => ⟨⟨w, rfl⟩, rfl⟩

theorem tryCatch {a b : Action α} {handle handle' : KeyringError → Action α} (h : c.Lazily a b)
    (hh : ∀ e, c.Later (handle e) (handle' e))
    (hrethrow : ∀ e w, e.isOutside = true →
      (∃ w', Action.run (handle e) w = (.error e, w')) ∧ (handle e).dealings w = []) :
    c.Lazily (MonadExcept.tryCatch a handle) (MonadExcept.tryCatch b handle') := by
  rw [Action.tryCatch_eq_andThen, Action.tryCatch_eq_andThen]
  exact h.andThen (.onFailure hh) hrethrow

theorem log_bind {level : LogLevel} {source : LogSource} {message : String}
    {f g : Unit → Action α} (h : c.Lazily (f ()) (g ())) :
    c.Lazily (Action.log level source message >>= f) (Action.log level source message >>= g) := by
  have hlog := c.direct.log_asksOnly level source message
  refine { toLater := (Later.refl hlog).bind fun _ => h.toLater, refused := fun w e he => ?_
           built := fun w hs hn => ?_ }
  · have hsame := (w.nothingBuilt_log ⟨level, source, message⟩).fault?_eq c.transport
    rw [Action.run_bind_ok (Action.log_run ..), Action.dealings_log_bind]
    exact h.refused _ e (hsame.trans he)
  · have hsame := (w.nothingBuilt_log ⟨level, source, message⟩).fault?_eq c.transport
    rw [Action.run_bind_ok (Action.log_run ..), Action.run_bind_ok (Action.log_run ..),
      Action.dealings_log_bind, Action.dealings_log_bind]
    exact h.built _ hs (hsame.trans hn)

end LazyClient.Lazily

end Relations

namespace LazyClient

variable (c : LazyClient) (scope : Scope) (policy : MetadataPolicy)

theorem managedItems_lazily (title : Option String) :
    c.Lazily (c.transport.managedItems scope title) (c.direct.managedItems scope title) :=
  .ensure (c.direct.managedItems_asksOnly scope title)

theorem find_lazily (key : String) :
    c.Lazily (Keyring.find ⟨scope, c.transport, policy⟩ key)
      (Keyring.find ⟨scope, c.direct, policy⟩ key) :=
  (c.managedItems_lazily scope _).bind fun _ => .refl (.ofExcept _)

theorem get_lazily (key : String) :
    c.Lazily (Keyring.get ⟨scope, c.transport, policy⟩ key)
      (Keyring.get ⟨scope, c.direct, policy⟩ key) :=
  .log_bind ((c.find_lazily scope policy key).bind fun _ => .refl (.ofExcept _))

theorem has_lazily (key : String) :
    c.Lazily (Keyring.has ⟨scope, c.transport, policy⟩ key)
      (Keyring.has ⟨scope, c.direct, policy⟩ key) := by
  refine ((c.get_lazily scope policy key).bind fun _ => .refl (.pure true)).tryCatch
    (fun e => .refl ?_) fun e w ho => ?_
  · split
    · exact .pure false
    · exact .throw e
  · rw [if_neg (by simp [KeyringError.isNotFound_of_isOutside ho])]
    exact ⟨⟨w, rfl⟩, rfl⟩

theorem getMetadata_lazily (key : String) :
    c.Lazily (Keyring.getMetadata ⟨scope, c.transport, policy⟩ key)
      (Keyring.getMetadata ⟨scope, c.direct, policy⟩ key) := by
  refine ((c.find_lazily scope policy key).bind fun _ => .refl (.pure _)).tryCatch
    (fun e => .refl ?_) fun e w ho => ?_
  · split
    · exact .pure _
    · exact .throw e
  · rw [if_neg (by simp [KeyringError.isNotFound_of_isOutside ho])]
    exact ⟨⟨w, rfl⟩, rfl⟩

theorem find?_lazily (key : String) :
    c.Lazily (Keyring.find? ⟨scope, c.transport, policy⟩ key)
      (Keyring.find? ⟨scope, c.direct, policy⟩ key) := by
  refine ((c.find_lazily scope policy key).map some).tryCatch (fun e => .refl ?_) fun e w ho => ?_
  · split
    · exact .pure none
    · exact .bind (Keyring.log_asksOnly ⟨scope, c.direct, policy⟩ _ _) fun _ => .throw e
  · rw [if_neg (by simp [KeyringError.isNotFound_of_isOutside ho])]
    exact ⟨⟨_, Action.run_bind_ok (Action.log_run ..)⟩, Action.dealings_log_bind⟩

theorem set_lazily (item : Item) :
    c.Lazily (Keyring.set ⟨scope, c.transport, policy⟩ item)
      (Keyring.set ⟨scope, c.direct, policy⟩ item) := by
  refine (c.find?_lazily scope policy item.key).bind fun existing => ?_
  have hlog (message : String) := Keyring.log_asksOnly ⟨scope, c.direct, policy⟩ .debug message
  cases existing with
  | none =>
    exact (Later.refl (hlog _)).bind fun _ => .ensure (c.direct.create_asksOnly scope _ _)
  | some found =>
    exact (Later.refl (hlog _)).bind fun _ =>
      (Later.refl c.direct.now_asksOnly).bind fun _ => .ensure (c.direct.update_asksOnly scope _)

theorem remove_lazily (key : String) :
    c.Lazily (Keyring.remove ⟨scope, c.transport, policy⟩ key)
      (Keyring.remove ⟨scope, c.direct, policy⟩ key) := by
  have hlog (message : String) := Keyring.log_asksOnly ⟨scope, c.direct, policy⟩ .debug message
  exact (c.find_lazily scope policy key).bind fun _ =>
    (Later.refl (hlog _)).bind fun _ => .ensure (c.direct.delete_asksOnly scope _)

theorem keys_lazily :
    c.Lazily (Keyring.keys ⟨scope, c.transport, policy⟩)
      (Keyring.keys ⟨scope, c.direct, policy⟩) := by
  have hlog (message : String) := Keyring.log_asksOnly ⟨scope, c.direct, policy⟩ .debug message
  exact (c.managedItems_lazily scope none).bind fun _ => (Later.refl (.ofExcept _)).bind fun _ =>
    (Later.refl (hlog _)).bind fun _ => .refl (.pure _)

theorem perform_lazily (operation : Operation) :
    c.Lazily (Keyring.perform ⟨scope, c.transport, policy⟩ operation)
      (Keyring.perform ⟨scope, c.direct, policy⟩ operation) := by
  cases operation with
  | get key => exact (c.get_lazily scope policy key).map _
  | has key => exact (c.has_lazily scope policy key).map _
  | getMetadata key => exact (c.getMetadata_lazily scope policy key).map _
  | set item => exact (c.set_lazily scope policy item).map _
  | remove key => exact (c.remove_lazily scope policy key).map _
  | keys => exact (c.keys_lazily scope policy).map _

end LazyClient

end VaultRing
