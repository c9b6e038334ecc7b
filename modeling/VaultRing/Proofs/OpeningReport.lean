import VaultRing.Proofs.LazyClient
import VaultRing.Proofs.KeyringSession
import VaultRing.Registry

namespace VaultRing.Opening

section Requirements

inductive Requirement where
  | timeout
  | vault
  | host
  | gatewayToken
  | account
  | connector
  | serviceToken
deriving DecidableEq

def requirements : Backend → List Requirement
  | .connect => [.vault, .host, .gatewayToken]
  | .desktop => [.timeout, .vault, .account, .connector]
  | .serviceAccount => [.timeout, .vault, .connector]
  | .standard => [.timeout, .vault, .connector, .serviceToken]

/-- A variable that is unset, is no text or is empty. -/
def Lacks (env : Environment) (name : String) : Prop :=
  env.text? name = none ∨ env.text? name = some ""

instance (env : Environment) (name : String) : Decidable (Lacks env name) :=
  inferInstanceAs (Decidable (_ ∨ _))

namespace Requirement

def Violated (c : Config) (env : Environment) : Requirement → Prop
  | .timeout => c.timeout = Duration.zero
  | .vault => c.vaultId = "" ∧ Lacks env "OP_VAULT_ID"
  | .host => c.connectHost = "" ∧ Lacks env "OP_CONNECT_HOST"
  | .gatewayToken => Lacks env c.connectTokenVariable ∧ Lacks env "OP_CONNECT_TOKEN"
  | .account => c.desktopAccount = "" ∧ Lacks env "OP_DESKTOP_ACCOUNT_ID"
  | .connector => c.hasConnector = false
  | .serviceToken =>
    Lacks env c.tokenVariable ∧ Lacks env "OP_SERVICE_ACCOUNT_TOKEN" ∧ c.prompt.isNone = true

instance (c : Config) (env : Environment) : (r : Requirement) → Decidable (r.Violated c env)
  | .timeout => inferInstanceAs (Decidable (_ = _))
  | .vault | .host | .account | .gatewayToken | .serviceToken => inferInstanceAs (Decidable (_ ∧ _))
  | .connector => inferInstanceAs (Decidable (_ = _))

def error (backend : Backend) : Requirement → ConfigError
  | .timeout => .zeroTimeout backend
  | .vault => .unsetVariable backend "OP_VAULT_ID"
  | .host => .unsetVariable backend "OP_CONNECT_HOST"
  | .gatewayToken => .unsetVariable backend "OP_CONNECT_TOKEN"
  | .account => .unsetVariable backend "OP_DESKTOP_ACCOUNT_ID"
  | .connector => .noConnector backend
  | .serviceToken => .noToken backend

end Requirement

def report (backend : Backend) (c : Config) (env : Environment) (rs : List Requirement) :
    List ConfigError :=
  (rs.filter (·.Violated c env)).map (·.error backend)

theorem report_append (backend : Backend) (c : Config) (env : Environment)
    (rs rs' : List Requirement) :
    report backend c env (rs ++ rs') = report backend c env rs ++ report backend c env rs' := by
  simp [report]

theorem eq_report {backend : Backend} {c : Config} {env : Environment} {r : Requirement}
    {errors : List ConfigError} (hviolated : r.Violated c env → errors = [r.error backend])
    (hmet : ¬ r.Violated c env → errors = []) : errors = report backend c env [r] := by
  by_cases h : r.Violated c env
  · simp [report, h, hviolated]
  · simp [report, h, hmet]

theorem error_injective (backend : Backend) : Function.Injective (Requirement.error backend) := by
  intro r r' h
  cases r <;> cases r' <;> simp [Requirement.error] at h ⊢

theorem requirements_nodup (backend : Backend) : (requirements backend).Nodup := by
  cases backend <;> decide

theorem report_nodup (backend : Backend) (c : Config) (env : Environment) :
    (report backend c env (requirements backend)).Nodup :=
  ((requirements_nodup backend).filter _).map (error_injective backend)

theorem report_eq_nil_iff {backend : Backend} {c : Config} {env : Environment}
    {rs : List Requirement} : report backend c env rs = [] ↔ ∀ r ∈ rs, ¬ r.Violated c env := by
  simp [report, List.filter_eq_nil_iff]

end Requirements

section Values

def chosen (configured instead : String) : String := if configured = "" then instead else configured

def valueOf (env : Environment) (name : String) : String := (env.text? name).getD ""

variable {env : Environment} {configured name : String}

theorem value?_of_lacks (h : Lacks env name) : env.value? name = none := by
  rcases h with h | h <;> simp [Environment.value?, h]

theorem value?_of_not_lacks (h : ¬ Lacks env name) : env.value? name = some (valueOf env name) := by
  obtain ⟨hset, hempty⟩ := not_or.mp h
  obtain ⟨text, htext⟩ := Option.ne_none_iff_exists'.mp hset
  have hne : text ≠ "" := fun he => hempty (he ▸ htext)
  simp [Environment.value?, valueOf, htext, hne]

theorem valueOf_of_lacks (h : Lacks env name) : valueOf env name = "" := by
  rcases h with h | h <;> simp [valueOf, h]

theorem valueOf_of_not_lacks (h : ¬ Lacks env name) : valueOf env name ≠ "" := by
  obtain ⟨hset, hempty⟩ := not_or.mp h
  obtain ⟨text, htext⟩ := Option.ne_none_iff_exists'.mp hset
  rw [valueOf, htext]
  exact fun he => hempty (by rw [htext, ← he]; rfl)

def had (configured : String) (env : Environment) (name : String) : Option String :=
  if configured = "" then env.value? name else some configured

theorem configuredOr_run (configured name : String) (w : World) :
    (configuredOr configured name).run w = (had configured w.environment name, w) := by
  unfold configuredOr had
  by_cases h : configured = ""
  · rw [if_pos h, if_pos (by simp [h])]
    rfl
  · rw [if_neg h, if_neg (by simp [h])]
    rfl

theorem required_had_violated {backend : Backend} (h : configured = "" ∧ Lacks env name) :
    required backend name (had configured env name) = [.unsetVariable backend name] := by
  simp [required, had, h.1, value?_of_lacks h.2]

theorem required_had_met {backend : Backend} (h : ¬ (configured = "" ∧ Lacks env name)) :
    required backend name (had configured env name) = [] := by
  unfold had
  by_cases hc : configured = ""
  · have hl : ¬ Lacks env name := fun hl => h ⟨hc, hl⟩
    simp [required, hc, value?_of_not_lacks hl]
  · simp [required, hc]

theorem getD_had (configured name : String) (env : Environment) :
    (had configured env name).getD "" = chosen configured (valueOf env name) := by
  unfold had chosen
  by_cases hc : configured = ""
  · by_cases hl : Lacks env name
    · simp [hc, value?_of_lacks hl, valueOf_of_lacks hl]
    · simp [hc, value?_of_not_lacks hl]
  · simp [hc]

def firstOf (env : Environment) (first second : String) : Option String :=
  if Lacks env first ∧ Lacks env second then none
  else some (chosen (valueOf env first) (valueOf env second))

theorem findSome?_pair (env : Environment) (first second : String) :
    [first, second].findSome? env.value? = firstOf env first second := by
  unfold firstOf
  by_cases hf : Lacks env first
  · by_cases hs : Lacks env second
    · simp [hf, hs, value?_of_lacks]
    · simp [hf, hs, value?_of_lacks hf, value?_of_not_lacks hs, chosen, valueOf_of_lacks hf]
  · simp [hf, value?_of_not_lacks hf, chosen, valueOf_of_not_lacks hf]

theorem getD_firstOf (env : Environment) (first second : String) :
    (firstOf env first second).getD "" = chosen (valueOf env first) (valueOf env second) := by
  unfold firstOf
  by_cases h : Lacks env first ∧ Lacks env second
  · simp [h, chosen, valueOf_of_lacks]
  · rw [if_neg h]
    rfl

end Values

/-- The keyring that is made when there is no problem: every value is the configured one, else the
one in the environment, else the default. It has the next `slot`, should it need one; what can still
go wrong is not for want of a value. -/
def opened (backend : Backend) (c : Config) (env : Environment) (slot : Slot)
    (connectorFailure : Option String) : Except KeyringError Keyring :=
  let value (configured name : String) := chosen configured (valueOf env name)
  let scope : Scope :=
    { vaultId := value c.vaultId "OP_VAULT_ID"
      titlePrefix := chosen c.titlePrefix "keyring"
      tag := chosen c.tag "keyring"
      fieldTitle := chosen c.fieldTitle "keyring" }
  match backend with
  | .connect =>
    let token := value (valueOf env c.connectTokenVariable) "OP_CONNECT_TOKEN"
    match HttpClient.create (value c.connectHost "OP_CONNECT_HOST") token with
    | .ok client => .ok ⟨scope, .connect (.http client), .propagate⟩
    | .error source => .error (.clientInit .connect source)
  | .desktop =>
    let auth := LazyAuth.desktop (value c.desktopAccount "OP_DESKTOP_ACCOUNT_ID")
    .ok ⟨scope, .lazy slot .desktop auth c.timeout, .zeroWhenMissing⟩
  | .serviceAccount =>
    let auth := LazyAuth.serviceAccount
      ⟨.serviceAccount, [c.tokenVariable, "OP_SERVICE_ACCOUNT_TOKEN"], c.prompt⟩
    .ok ⟨scope, .lazy slot .serviceAccount auth c.timeout, .zeroWhenMissing⟩
  | .standard =>
    let tokens : TokenSource :=
      ⟨.standard, [c.tokenVariable, "OP_SERVICE_ACCOUNT_TOKEN"], c.prompt⟩
    match tokens.resolved tokenPrompt env, connectorFailure with
    | .error e, _ => .error e
    | .ok _, some message => .error (.clientInit .standard (.client message))
    | .ok _, none => .ok ⟨scope, .standard .standard c.timeout, .zeroWhenMissing⟩

section Errors

variable (c : Config) (env : Environment)

theorem isZero_iff (d : Duration) : d.isZero = true ↔ d = Duration.zero := by
  constructor
  · intro h
    obtain ⟨hseconds, hnanos⟩ := Bool.and_eq_true_iff.mp h
    obtain ⟨seconds, nanos⟩ := d
    have hs : seconds = 0 := beq_iff_eq.mp hseconds
    have hn : nanos = ⟨0, by decide⟩ := Fin.ext (beq_iff_eq.mp hnanos)
    rw [hs, hn]
    rfl
  · rintro rfl
    rfl

theorem timeout_report (backend : Backend) :
    timeoutErrors c backend = report backend c env [.timeout] := by
  apply eq_report
  · intro h
    exact if_pos ((isZero_iff c.timeout).mpr h)
  · intro h
    apply if_neg
    intro hz
    exact h ((isZero_iff c.timeout).mp hz)

theorem vault_report (backend : Backend) :
    required backend vaultVariable (had c.vaultId env vaultVariable) =
      report backend c env [.vault] := eq_report required_had_violated required_had_met

theorem host_report :
    required .connect hostVariable (had c.connectHost env hostVariable) =
      report .connect c env [.host] := eq_report required_had_violated required_had_met

theorem account_report :
    required .desktop accountVariable (had c.desktopAccount env accountVariable) =
      report .desktop c env [.account] := eq_report required_had_violated required_had_met

theorem gatewayToken_report :
    required .connect connectTokenVariable
        (firstOf env c.connectTokenVariable connectTokenVariable) =
      report .connect c env [.gatewayToken] := by
  apply eq_report
  · intro h
    have hnone : firstOf env c.connectTokenVariable connectTokenVariable = none := if_pos h
    rw [hnone]
    rfl
  · intro h
    have hsome : firstOf env c.connectTokenVariable connectTokenVariable = some _ := if_neg h
    rw [hsome]
    rfl

theorem connector_report (backend : Backend) :
    connectorErrors c backend = report backend c env [.connector] := by
  apply eq_report
  · intro h
    exact if_neg (Bool.eq_false_iff.mp h)
  · intro h
    exact if_pos (eq_true_of_ne_false h)

def available (c : Config) (env : Environment) : Bool :=
  c.prompt.isSome || (firstOf env c.tokenVariable serviceTokenVariable).isSome

theorem isAvailable_perform (w : World) :
    Action.run (Action.perform (tokenSource c .standard).isAvailable) w =
      (.ok (available c w.environment), w) := by
  rw [Action.run_perform]
  unfold TokenSource.isAvailable available
  cases hp : c.prompt with
  | some prompt =>
    rw [if_pos (by simp [tokenSource, hp])]
    rfl
  | none =>
    rw [if_neg (by simp [tokenSource, hp]), Program.run_map, TokenSource.firstSet_run]
    simp only [tokenSource, findSome?_pair]
    rfl

theorem available_eq_false_iff :
    available c env = false ↔ Requirement.serviceToken.Violated c env := by
  simp only [available, firstOf, serviceTokenVariable, Requirement.Violated]
  by_cases h : Lacks env c.tokenVariable ∧ Lacks env "OP_SERVICE_ACCOUNT_TOKEN"
  · simp [h]
  · simp [h, ← and_assoc]

theorem serviceToken_report :
    (if available c env then [] else [.noToken .standard]) =
      report .standard c env [.serviceToken] := by
  apply eq_report
  · intro h
    have hnone : available c env = false := (available_eq_false_iff c env).mpr h
    simp [hnone, Requirement.error]
  · intro h
    have hsome : available c env = true := by simpa [← available_eq_false_iff] using h
    simp [hsome]

end Errors

section Reports

/-- All problems are reported at once and nothing else is done; without any, the keyring is
opened. -/
structure Reports (a : Action Keyring) (backend : Backend) (c : Config) (w : World) : Prop where
  refused : report backend c w.environment (requirements backend) ≠ [] →
    ∃ logger, Action.run a w =
      (.error (.config (report backend c w.environment (requirements backend))), { w with logger })
  opened : report backend c w.environment (requirements backend) = [] →
    (Action.run a w).1 = opened backend c w.environment w.slots w.connectorFailure

variable {α : Type} {w : World}

theorem refuseIf_run (errors : List ConfigError) (source : LogSource) (name : String)
    (f : Unit → Action α) (w : World) :
    (errors = [] → Action.run (refuseIf errors source name >>= f) w = Action.run (f ()) w) ∧
      (errors ≠ [] → ∃ logger, Action.run (refuseIf errors source name >>= f) w =
        (.error (.config errors), { w with logger })) := by
  unfold refuseIf
  constructor
  · intro h
    rw [if_pos (by simp [h])]
    rfl
  · intro h
    rw [if_neg (by simp [h])]
    exact ⟨_, Action.run_bind_error (Action.run_bind_ok (Action.log_run ..))⟩

theorem scope_run (c : Config) (backend : Backend) (w : World) :
    Action.run (Action.perform (scope c backend)) w =
      (.ok (scopeOf c (had c.vaultId w.environment vaultVariable),
        required backend vaultVariable (had c.vaultId w.environment vaultVariable)), w) := by
  rw [Action.run_perform, scope, Program.run_monadBind, configuredOr_run]
  rfl

theorem scopeOf_had (c : Config) (env : Environment) :
    scopeOf c (had c.vaultId env vaultVariable) =
      { vaultId := chosen c.vaultId (valueOf env "OP_VAULT_ID")
        titlePrefix := chosen c.titlePrefix "keyring"
        tag := chosen c.tag "keyring"
        fieldTitle := chosen c.fieldTitle "keyring" } := by
  simp [scopeOf, getD_had, vaultVariable, orDefault, defaultText, chosen]

theorem Reports.of_refuseIf {a : Action Keyring} {backend : Backend} {c : Config}
    {errors : List ConfigError} {source : LogSource} {name : String} {f : Unit → Action Keyring}
    (ha : Action.run a w = Action.run (refuseIf errors source name >>= f) w)
    (he : errors = report backend c w.environment (requirements backend))
    (hf : report backend c w.environment (requirements backend) = [] →
      (Action.run (f ()) w).1 = Opening.opened backend c w.environment w.slots w.connectorFailure) :
    Reports a backend c w := by
  subst he
  obtain ⟨hpass, hrefuse⟩ := refuseIf_run _ source name f w
  constructor
  · intro hne
    rw [ha]
    exact hrefuse hne
  · intro hnone
    rw [ha, hpass hnone]
    exact hf hnone

theorem configuredOr_perform (configured name : String) (w : World) :
    Action.run (Action.perform (configuredOr configured name)) w =
      (.ok (had configured w.environment name), w) := by
  rw [Action.run_perform, configuredOr_run]

theorem firstSet_perform (first second : String) (w : World) :
    Action.run (Action.perform (TokenSource.firstSet [first, second])) w =
      (.ok (firstOf w.environment first second), w) := by
  rw [Action.run_perform, TokenSource.firstSet_run, findSome?_pair]

theorem connect_reports (c : Config) (w : World) : Reports (connect c) .connect c w := by
  refine .of_refuseIf ((Action.run_bind_ok (scope_run c .connect w)).trans
    ((Action.run_bind_ok (configuredOr_perform c.connectHost hostVariable w)).trans
      (Action.run_bind_ok (firstSet_perform c.connectTokenVariable connectTokenVariable w))))
    ?_ fun hnone => ?_
  · rw [vault_report, host_report, gatewayToken_report, ← report_append, ← report_append]
    rfl
  · rw [getD_had, getD_firstOf, scopeOf_had]
    unfold opened
    dsimp only [hostVariable, connectTokenVariable]
    cases HttpClient.create (chosen c.connectHost (valueOf w.environment "OP_CONNECT_HOST"))
      (chosen (valueOf w.environment c.connectTokenVariable)
        (valueOf w.environment "OP_CONNECT_TOKEN")) with
    | ok client => rfl
    | error source => rfl

theorem desktop_reports (c : Config) (w : World) : Reports (desktop c) .desktop c w := by
  refine .of_refuseIf ((Action.run_bind_ok (scope_run c .desktop w)).trans
    (Action.run_bind_ok (configuredOr_perform c.desktopAccount accountVariable w))) ?_ fun _ => ?_
  · rw [timeout_report c w.environment, vault_report, account_report,
      connector_report c w.environment, ← report_append, ← report_append, ← report_append]
    rfl
  · rw [getD_had, scopeOf_had]
    rfl

theorem serviceAccount_reports (c : Config) (w : World) :
    Reports (serviceAccount c) .serviceAccount c w := by
  refine .of_refuseIf (Action.run_bind_ok (scope_run c .serviceAccount w)) ?_ fun _ => ?_
  · rw [timeout_report c w.environment, vault_report, connector_report c w.environment,
      ← report_append, ← report_append]
    rfl
  · rw [scopeOf_had]
    rfl

theorem standard_reports (c : Config) (w : World) : Reports (standard c) .standard c w := by
  refine .of_refuseIf ((Action.run_bind_ok (scope_run c .standard w)).trans
    (Action.run_bind_ok (isAvailable_perform c w))) ?_ fun _ => ?_
  · rw [timeout_report c w.environment, vault_report, connector_report c w.environment,
      serviceToken_report, ← report_append, ← report_append, ← report_append]
    rfl
  · -- Only here is more to be had than values: the token, of a user perhaps, and then the client.
    have hresult := (tokenSource c .standard).resolve_result tokenPrompt w
    have hread := (tokenSource c .standard).resolve_readOnly tokenPrompt w
    cases hr : Action.run ((tokenSource c .standard).resolve tokenPrompt) w with
    | mk result w₁ =>
      rw [hr] at hresult hread
      have hresolved : (tokenSource c .standard).resolved tokenPrompt w.environment = result :=
        hresult.symm
      have hconnector : w₁.connectorFailure = w.connectorFailure :=
        congrArg Conditions.connectorFailure hread.conditions
      have hopened : opened .standard c w.environment w.slots w.connectorFailure =
          match (tokenSource c .standard).resolved tokenPrompt w.environment,
              w.connectorFailure with
          | .error e, _ => .error e
          | .ok _, some message => .error (.clientInit .standard (.client message))
          | .ok _, none => .ok ⟨scopeOf c (had c.vaultId w.environment vaultVariable),
              .standard .standard c.timeout, .zeroWhenMissing⟩ := by
        rw [scopeOf_had]
        rfl
      rw [hopened, hresolved]
      cases result with
      | error e => exact congrArg Prod.fst (Action.run_bind_error hr)
      | ok token =>
        refine (congrArg Prod.fst (Action.run_bind_ok hr)).trans ?_
        have hconnect := w₁.connect_result (.serviceAccountToken token) integration
        rw [hconnector] at hconnect
        cases hm : w.connectorFailure with
        | some message | none =>
          rw [hm] at hconnect
          exact congrArg Prod.fst (Action.run_bind_ok (Transport.connect_run _ hconnect))

theorem keyring_reports (backend : Backend) (c : Config) (w : World) :
    Reports (keyring backend c) backend c w := by
  cases backend with
  | connect => exact connect_reports c w
  | desktop => exact desktop_reports c w
  | serviceAccount => exact serviceAccount_reports c w
  | standard => exact standard_reports c w

theorem Reports.log_bind {a : Action Keyring} {backend : Backend} {c : Config} {level : LogLevel}
    {source : LogSource} {message : String}
    (h : Reports a backend c { w with logger := w.logger.add ⟨level, source, message⟩ }) :
    Reports (Action.log level source message >>= fun _ => a) backend c w := by
  have hrun : Action.run (Action.log level source message >>= fun _ => a) w = Action.run a _ :=
    Action.run_bind_ok (Action.log_run ..)
  constructor
  · intro hne
    obtain ⟨logger, hr⟩ := h.refused hne
    exact ⟨logger, hrun.trans hr⟩
  · intro hnone
    exact (congrArg Prod.fst hrun).trans (h.opened hnone)

inductive Way where
  | constructor
  | byBackend
  | byName

def Way.ask : Way → Backend → Config → Action Keyring
  | .constructor, backend, c => keyring backend c
  | .byBackend, backend, c => Registry.defaults.openKeyring backend c
  | .byName, backend, c => Registry.defaults.openNamed backend.name c

theorem openKeyring_reports (backend : Backend) (c : Config) (w : World) :
    Reports (Registry.defaults.openKeyring backend c) backend c w := by
  have hfind : Registry.defaults.find? backend =
      some ⟨backend, Registry.description backend, keyring backend⟩ := by
    cases backend <;>
      simp [Registry.defaults, Registry.find?, Registry.register, Registry.empty, Backend.all,
        Backend.rank]
  unfold Registry.openKeyring
  rw [hfind]
  exact .log_bind (keyring_reports backend c _)

theorem ask_reports (way : Way) (backend : Backend) (c : Config) (w : World) :
    Reports (way.ask backend c) backend c w := by
  cases way with
  | constructor => exact keyring_reports backend c w
  | byBackend => exact openKeyring_reports backend c w
  | byName =>
    have hname : Backend.ofName? backend.name = some backend := by cases backend <;> rfl
    change Reports (Registry.openNamed _ _ c) backend c w
    rw [Registry.openNamed, hname]
    exact openKeyring_reports backend c w

/-- A token that is set or can be asked for is not missed. -/
theorem resolved_ne_config {c : Config} {env : Environment} {backend : Backend}
    (h : ¬ Requirement.serviceToken.Violated c env) (text : String) (errors : List ConfigError) :
    (tokenSource c backend).resolved text env ≠ .error (.config errors) := by
  unfold TokenSource.resolved tokenSource
  rw [findSome?_pair]
  by_cases hl : Lacks env c.tokenVariable ∧ Lacks env serviceTokenVariable
  · cases hp : c.prompt with
    | none => exact absurd ⟨hl.1, hl.2, by rw [hp]; rfl⟩ h
    | some prompt =>
      rw [firstOf, if_pos hl]
      cases ha : prompt.ask text <;> simp [ha, Except.mapError]
  · rw [firstOf, if_neg hl]
    simp

/-- What goes wrong with everything at hand is no problem of the configuration. -/
theorem opened_ne_config {backend : Backend} {c : Config} {env : Environment}
    (h : report backend c env (requirements backend) = []) (slot : Slot)
    (connectorFailure : Option String) (errors : List ConfigError) :
    Opening.opened backend c env slot connectorFailure ≠ .error (.config errors) := by
  cases backend with
  | connect =>
    unfold Opening.opened
    dsimp only
    split <;> simp
  | desktop | serviceAccount => simp [Opening.opened]
  | standard =>
    have hmet : ¬ Requirement.serviceToken.Violated c env := report_eq_nil_iff.mp h _ (by decide)
    have hresolved : (tokenSource c .standard).resolved tokenPrompt env ≠ .error (.config errors) :=
      resolved_ne_config hmet tokenPrompt errors
    unfold Opening.opened
    dsimp only
    split
    · rename_i e he
      exact fun hc => hresolved (he.trans (congrArg Except.error (Except.error.inj hc)))
    · simp
    · simp

/-- However a keyring is asked for, it is refused for its configuration if and only if a requirement
is violated; then all violated ones are reported, each once and in order, and neither has a client
been built nor the user been asked. -/
theorem all_problems_reported_at_once (way : Way) (backend : Backend) (c : Config) (w : World) :
    ((∃ errors, (Action.run (way.ask backend c) w).1 = .error (.config errors)) ↔
        ∃ r ∈ requirements backend, r.Violated c w.environment) ∧
      (∀ errors, (Action.run (way.ask backend c) w).1 = .error (.config errors) →
        errors = report backend c w.environment (requirements backend) ∧ errors ≠ [] ∧
          errors.Nodup ∧ ∃ logger, (Action.run (way.ask backend c) w).2 = { w with logger }) ∧
      ((∀ r ∈ requirements backend, ¬ r.Violated c w.environment) →
        (Action.run (way.ask backend c) w).1 =
          Opening.opened backend c w.environment w.slots w.connectorFailure) := by
  have hreports := ask_reports way backend c w
  by_cases h : report backend c w.environment (requirements backend) = []
  · have hmet := report_eq_nil_iff.mp h
    have hne (errors : List ConfigError) :
        (Action.run (way.ask backend c) w).1 ≠ .error (.config errors) := by
      rw [hreports.opened h]
      exact opened_ne_config h _ _ errors
    refine ⟨?_, fun errors he => absurd he (hne errors), fun _ => hreports.opened h⟩
    apply iff_of_false
    · rintro ⟨errors, he⟩
      exact hne errors he
    · rintro ⟨r, hr, hv⟩
      exact hmet r hr hv
  · obtain ⟨logger, hrun⟩ := hreports.refused h
    have hviolated : ∃ r ∈ requirements backend, r.Violated c w.environment := by
      by_contra hn
      apply h
      apply report_eq_nil_iff.mpr
      intro r hr hv
      exact hn ⟨r, hr, hv⟩
    rw [hrun]
    refine ⟨iff_of_true ⟨_, rfl⟩ hviolated, fun errors he => ?_, fun hmet => ?_⟩
    · obtain rfl : report backend c w.environment (requirements backend) = errors := by
        injection he with he
        injection he
      exact ⟨rfl, h, report_nodup .., logger, rfl⟩
    · obtain ⟨r, hr, hv⟩ := hviolated
      exact absurd hv (hmet r hr)

theorem standard_reports_all_four :
    (Action.run (Way.byName.ask .standard .empty)
        (World.ofVault (.ofItems []) Timestamp.noon)).1 =
      .error (.config [.zeroTimeout .standard, .unsetVariable .standard "OP_VAULT_ID",
        .noConnector .standard, .noToken .standard]) := by
  obtain ⟨hrefused, hreport, -⟩ := all_problems_reported_at_once .byName .standard .empty
    (World.ofVault (.ofItems []) Timestamp.noon)
  obtain ⟨errors, he⟩ := hrefused.mpr ⟨.timeout, by decide, rfl⟩
  rw [he, (hreport errors he).1]
  rfl

end Reports

end VaultRing.Opening
