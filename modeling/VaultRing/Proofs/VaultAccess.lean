import VaultRing.Proofs.WorldFrame

namespace VaultRing

def KeyringError.isOutside : KeyringError → Bool
  | .config _ | .transport .. | .clientInit .. | .prompt _ => true
  | .keyNotFound | .ambiguous .. | .duplicateTitles .. | .decode _ | .unsupportedBackend _ => false

def TokenSource.Available (s : TokenSource) (env : Environment) : Prop :=
  (∃ token, s.names.findSome? env.value? = some token) ∨
    ∃ prompt token, s.prompt = some prompt ∧ prompt.ask tokenPrompt = .ok token

def LazyAuth.Available : LazyAuth → Environment → Prop
  | .desktop _, _ => True
  | .serviceAccount tokens, env => tokens.Available env

namespace Transport

def limit? : Transport → Option Duration
  | .standard _ limit | .lazy _ _ _ limit => some limit
  | .connect _ => none

/-- Whether a transport speaks to the vault itself, and not to a gateway over HTTP. -/
def OverVault : Transport → Prop
  | .connect (.http _) => False
  | .standard .. | .lazy .. | .connect .vault => True

/-- There is a client of the vault, or there will be one when it is needed. -/
def Ready (w : World) : Transport → Prop
  | .standard .. | .connect .vault => True
  | .lazy slot _ auth _ =>
    slot ∈ w.filled ∨ w.connectorFailure = none ∧ auth.Available w.environment
  | .connect (.http _) => False

structure Served (t : Transport) (w : World) : Prop where
  ready : t.Ready w
  answers : w.vault.Answers t.limit?

end Transport

namespace World

theorem SameStore.answers_iff {w w' : World} (h : w.SameStore w') (limit : Option Duration) :
    w'.vault.Answers limit ↔ w.vault.Answers limit := by
  have hf : w'.vault.failure = w.vault.failure := congrArg Conditions.failure h.conditions
  have hd : w'.vault.delay = w.vault.delay := congrArg Conditions.delay h.conditions
  have hl : w'.vault.isLate limit = w.vault.isLate limit := by simp only [MemoryVault.isLate, hd]
  constructor
  · intro ha
    exact ⟨hl ▸ ha.timely, hf ▸ ha.healthy⟩
  · intro ha
    exact ⟨hl ▸ ha.timely, hf ▸ ha.healthy⟩

theorem SameStore.answers {w w' : World} (h : w.SameStore w') {limit : Option Duration}
    (ha : w.vault.Answers limit) : w'.vault.Answers limit := (h.answers_iff limit).mpr ha

theorem SameStore.ready {w w' : World} (h : w.SameStore w') {t : Transport} (hr : t.Ready w) :
    t.Ready w' := by
  have hc : w'.connectorFailure = w.connectorFailure :=
    congrArg Conditions.connectorFailure h.conditions
  have he : w'.environment = w.environment := congrArg Conditions.environment h.conditions
  cases t with
  | standard backend limit => trivial
  | lazy slot backend auth limit =>
    rcases hr with hs | ⟨hn, ha⟩
    · exact .inl (h.filled slot hs)
    · exact .inr ⟨hc.trans hn, he ▸ ha⟩
  | connect client =>
    cases client with
    | vault => trivial
    | http client => exact hr

theorem SameStore.served {w w' : World} (h : w.SameStore w') {t : Transport} (hs : t.Served w) :
    t.Served w' := ⟨h.ready hs.ready, h.answers hs.answers⟩

end World

section Credentials

theorem TokenSource.firstSet_run (names : List String) (w : World) :
    (TokenSource.firstSet names).run w = (names.findSome? w.environment.value?, w) := by
  induction names with
  | nil => rfl
  | cons name names ih =>
    have hlookup : (Program.lookup name).run w = (w.environment.value? name, w) := rfl
    unfold TokenSource.firstSet
    rw [Program.run_monadBind, hlookup, List.findSome?_cons]
    cases w.environment.value? name with
    | some value => rfl
    | none => exact ih

theorem TokenSource.firstSet_readOnly (names : List String) :
    (TokenSource.firstSet names).ReadOnly := by
  intro w
  rw [firstSet_run]
  exact .refl w

theorem TokenSource.resolve_readOnly (s : TokenSource) (text : String) :
    (s.resolve text).ReadOnly := by
  unfold TokenSource.resolve
  refine .bind (.perform (firstSet_readOnly _)) fun token? => ?_
  cases token? with
  | some token => exact .pure token
  | none =>
    cases s.prompt with
    | none => exact .throw _
    | some prompt => exact .orFail _ (.request rfl)

/-- The first variable that is set, else the answer of the user. -/
theorem TokenSource.resolve_result (s : TokenSource) (text : String) (w : World) :
    (Action.run (s.resolve text) w).1 =
      match s.names.findSome? w.environment.value? with
      | some token => .ok token
      | none =>
        match s.prompt with
        | none => .error (.config [.noToken s.backend])
        | some prompt => (prompt.ask text).mapError .prompt := by
  have hset : Action.run (Action.perform (TokenSource.firstSet s.names)) w =
      (.ok (s.names.findSome? w.environment.value?), w) := by
    rw [Action.run_perform, firstSet_run]
  unfold TokenSource.resolve
  rw [Action.run_bind_ok hset]
  cases s.names.findSome? w.environment.value? with
  | some token => rfl
  | none => cases s.prompt <;> rfl

theorem LazyAuth.resolve_readOnly (auth : LazyAuth) : auth.resolve.ReadOnly := by
  cases auth with
  | desktop account => exact .pure _
  | serviceAccount tokens => exact .map _ (tokens.resolve_readOnly _)

theorem LazyAuth.resolve_reads {auth : LazyAuth} {w : World} (h : auth.Available w.environment) :
    ∃ a, auth.resolve.Reads w (.ok a) := by
  cases auth with
  | desktop account => exact ⟨_, .pure _ w⟩
  | serviceAccount tokens =>
    have hr := Action.Reads.of_readOnly (tokens.resolve_readOnly tokenPrompt) w
    rw [TokenSource.resolve_result] at hr
    obtain ⟨token, ht⟩ | ⟨prompt, token, hp, ha⟩ := h
    · rw [ht] at hr
      exact ⟨_, hr.map _⟩
    · cases hs : tokens.names.findSome? w.environment.value? with
      | some token' =>
        rw [hs] at hr
        exact ⟨_, hr.map _⟩
      | none =>
        rw [hs, hp] at hr
        simp only [ha] at hr
        exact ⟨_, hr.map _⟩

theorem LazyAuth.resolve_fails {auth : LazyAuth} {w : World}
    (h : ¬ auth.Available w.environment) :
    ∃ e, e.isOutside = true ∧ auth.resolve.Reads w (.error e) := by
  cases auth with
  | desktop account => exact absurd trivial h
  | serviceAccount tokens =>
    have hr := Action.Reads.of_readOnly (tokens.resolve_readOnly tokenPrompt) w
    rw [TokenSource.resolve_result] at hr
    cases hs : tokens.names.findSome? w.environment.value? with
    | some token => exact absurd (.inl ⟨token, hs⟩) h
    | none =>
      rw [hs] at hr
      cases hp : tokens.prompt with
      | none =>
        rw [hp] at hr
        exact ⟨_, rfl, hr.map _⟩
      | some prompt =>
        rw [hp] at hr
        cases ha : prompt.ask tokenPrompt with
        | ok token => exact absurd (.inr ⟨prompt, token, hp, ha⟩) h
        | error failure =>
          simp only [ha] at hr
          exact ⟨.prompt failure, rfl, hr.map _⟩

end Credentials

section LazyClient

namespace Transport

theorem connectClient_readOnly (slot : Slot) (backend : Backend) (a : ClientAuth) :
    (connectClient slot backend a).ReadOnly := by
  refine .bind (.perform (.request rfl)) fun result => ?_
  cases result with
  | ok => exact .perform (.request rfl)
  | error source => exact .bind (.log _ _ _) fun _ => .throw _

theorem ensureClient_readOnly (slot : Slot) (backend : Backend) (auth : LazyAuth) :
    (ensureClient slot backend auth).ReadOnly := by
  refine .bind (.perform (.request rfl)) fun filled => ?_
  split
  · exact .pure ()
  · refine .bind auth.resolve_readOnly fun a => .bind (.log _ _ _) fun _ => ?_
    exact connectClient_readOnly slot backend a

end Transport

theorem World.connect_result (w : World) (a : ClientAuth) (integration : Integration) :
    (w.connect a integration).1 =
      match w.connectorFailure with
      | some message => .error (.client message)
      | none => .ok () := by
  unfold World.connect
  cases w.connectorFailure <;> rfl

namespace Transport

variable {w : World}

theorem connectClient_reads_ok (hn : w.connectorFailure = none) (slot : Slot) (backend : Backend)
    (a : ClientAuth) : (connectClient slot backend a).Reads w (.ok ()) := by
  have hc := Action.Reads.perform (p := Program.connect a integration) (.request rfl) w
  have hresult : ((Program.connect a integration).run w).1 = .ok () := by
    change (w.connect a integration).1 = _
    rw [World.connect_result, hn]
  rw [hresult] at hc
  exact hc.bind_ok fun w' _ => .perform (.request rfl) w'

theorem connectClient_reads_error {message : String} (hm : w.connectorFailure = some message)
    (slot : Slot) (backend : Backend) (a : ClientAuth) :
    (connectClient slot backend a).Reads w (.error (.clientInit backend (.client message))) := by
  have hc := Action.Reads.perform (p := Program.connect a integration) (.request rfl) w
  have hresult : ((Program.connect a integration).run w).1 = .error (.client message) := by
    change (w.connect a integration).1 = _
    rw [World.connect_result, hm]
  rw [hresult] at hc
  exact hc.bind_ok fun _ _ => .log_bind fun w' _ => .throw _ w'

theorem buildClient_reads (slot : Slot) (backend : Backend) (auth : LazyAuth) (w : World) :
    w.connectorFailure = none ∧ auth.Available w.environment ∧
        (buildClient slot backend auth).Reads w (.ok ()) ∨
      ¬ (w.connectorFailure = none ∧ auth.Available w.environment) ∧
        ∃ e, e.isOutside = true ∧ (buildClient slot backend auth).Reads w (.error e) := by
  by_cases ha : auth.Available w.environment
  · obtain ⟨a, hr⟩ := LazyAuth.resolve_reads ha
    cases hn : w.connectorFailure with
    | none =>
      refine .inl ⟨rfl, ha, hr.bind_ok fun w₁ h₁ => .log_bind fun w₂ h₂ => ?_⟩
      exact connectClient_reads_ok
        ((congrArg Conditions.connectorFailure (h₁.trans h₂).conditions).trans hn) slot backend a
    | some message =>
      refine .inr ⟨by simp, .clientInit backend (.client message), rfl,
        hr.bind_ok fun w₁ h₁ => .log_bind fun w₂ h₂ => ?_⟩
      exact connectClient_reads_error
        ((congrArg Conditions.connectorFailure (h₁.trans h₂).conditions).trans hn) slot backend a
  · obtain ⟨e, ho, hr⟩ := LazyAuth.resolve_fails ha
    exact .inr ⟨fun h => ha h.2, e, ho, hr.bind_error⟩

theorem ensureClient_run_filled {slot : Slot} (h : slot ∈ w.filled)
    (backend : Backend) (auth : LazyAuth) :
    Action.run (ensureClient slot backend auth) w = (.ok (), w) := by
  refine (Action.run_bind_ok (Action.run_perform (Program.isFilled slot) w)).trans ?_
  change Action.run (if w.filled.contains slot then _ else _) w = _
  rw [if_pos (by simpa using h)]
  rfl

theorem ensureClient_run_empty {slot : Slot} (h : slot ∉ w.filled)
    (backend : Backend) (auth : LazyAuth) :
    Action.run (ensureClient slot backend auth) w =
      Action.run (buildClient slot backend auth) w := by
  refine (Action.run_bind_ok (Action.run_perform (Program.isFilled slot) w)).trans ?_
  change Action.run (if w.filled.contains slot then _ else _) w = _
  rw [if_neg (by simpa using h)]

/-- Once there is a client it is used; else the credentials and the connector decide. -/
theorem ensureClient_reads (slot : Slot) (backend : Backend) (auth : LazyAuth)
    (limit : Duration) (w : World) :
    (Transport.lazy slot backend auth limit).Ready w ∧
        (ensureClient slot backend auth).Reads w (.ok ()) ∨
      ¬ (Transport.lazy slot backend auth limit).Ready w ∧
        ∃ e, e.isOutside = true ∧ (ensureClient slot backend auth).Reads w (.error e) := by
  by_cases hs : slot ∈ w.filled
  · exact .inl ⟨.inl hs, w, ensureClient_run_filled hs backend auth, .refl w⟩
  · unfold Action.Reads
    rw [ensureClient_run_empty hs]
    rcases buildClient_reads slot backend auth w with ⟨hn, ha, hr⟩ | ⟨hna, e, ho, hr⟩
    · exact .inl ⟨.inr ⟨hn, ha⟩, hr⟩
    · exact .inr ⟨fun h => hna (h.resolve_left hs), e, ho, hr⟩

end Transport

end LazyClient

end VaultRing
