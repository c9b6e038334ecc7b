import VaultRing.Proofs.OpeningReport

namespace VaultRing

section Utf8

theorem toByteArray_eq (s : String) : s.toByteArray = ⟨(textBytes s).toArray⟩ := by
  rw [← String.utf8Encode_toList]
  exact ByteArray.ext List.data_toByteArray

theorem fromUTF8?_eq_some_iff {bytes : Bytes} {s : String} :
    String.fromUTF8? ⟨bytes.toArray⟩ = some s ↔ bytes = textBytes s := by
  unfold String.fromUTF8?
  constructor
  · intro h
    split at h
    · obtain rfl := Option.some.inj h
      have harray : bytes.toArray = (textBytes _).toArray :=
        congrArg ByteArray.data (toByteArray_eq (String.fromUTF8 _ ‹_›))
      exact congrArg Array.toList harray
    · cases h
  · rintro rfl
    have hvalid : (⟨(textBytes s).toArray⟩ : ByteArray).IsValidUTF8 :=
      toByteArray_eq s ▸ s.isValidUTF8
    rw [dif_pos hvalid]
    exact congrArg some (String.toByteArray_inj.mp (toByteArray_eq s).symm)

end Utf8

namespace Environment

/-- A variable gives a token if it has a name, and its bytes are those of a text that is not
empty. -/
structure Gives (env : Environment) (name token : String) : Prop where
  named : name ≠ ""
  bytes : env.bytes? name = some (textBytes token)
  nonempty : token ≠ ""

def GivesFirst (env : Environment) (names : List String) (token : String) : Prop :=
  ∃ front name back, names = front ++ name :: back ∧ env.Gives name token ∧
    ∀ other ∈ front, ∀ text, ¬ env.Gives other text

variable {env : Environment} {name token : String} {names : List String}

theorem bytes?_ne_none_named {bytes : Bytes} (h : env.bytes? name = some bytes) : name ≠ "" := by
  rintro rfl
  cases h

theorem value?_eq_some_iff : env.value? name = some token ↔ env.Gives name token := by
  have hvalue : env.value? name = some token ↔
      (∃ bytes, env.bytes? name = some bytes ∧ bytes = textBytes token) ∧ token ≠ "" := by
    simp [value?, text?, Option.filter_eq_some_iff, Option.bind_eq_some_iff, fromUTF8?_eq_some_iff]
  rw [hvalue]
  constructor
  · rintro ⟨⟨bytes, hbytes, rfl⟩, hne⟩
    exact ⟨bytes?_ne_none_named hbytes, hbytes, hne⟩
  · intro h
    exact ⟨⟨_, h.bytes, rfl⟩, h.nonempty⟩

theorem value?_eq_none_iff : env.value? name = none ↔ ∀ token, ¬ env.Gives name token := by
  simp only [Option.eq_none_iff_forall_ne_some, ne_eq, value?_eq_some_iff]

theorem findSome?_value?_iff :
    names.findSome? env.value? = some token ↔ env.GivesFirst names token := by
  simp only [List.findSome?_eq_some_iff, value?_eq_some_iff, value?_eq_none_iff, GivesFirst]

theorem findSome?_value?_eq_none_iff :
    names.findSome? env.value? = none ↔ ∀ name ∈ names, ∀ token, ¬ env.Gives name token := by
  simp only [List.findSome?_eq_none_iff, value?_eq_none_iff]

end Environment

namespace TokenSource

variable (s : TokenSource) (text : String) (w : World)

/-- All that is done to the world is to ask the user, if there is need. -/
theorem resolve_run :
    Action.run (s.resolve text) w =
      match s.names.findSome? w.environment.value?, s.prompt with
      | some token, _ => (.ok token, w)
      | none, some prompt =>
        ((prompt.ask text).mapError .prompt, { w with prompted := w.prompted ++ [text] })
      | none, none => (.error (.config [.noToken s.backend]), w) := by
  have hset : Action.run (Action.perform (firstSet s.names)) w =
      (.ok (s.names.findSome? w.environment.value?), w) := by
    rw [Action.run_perform, firstSet_run]
  unfold resolve
  rw [Action.run_bind_ok hset]
  cases s.names.findSome? w.environment.value? with
  | some token => rfl
  | none => cases s.prompt <;> rfl

theorem isAvailable_run :
    s.isAvailable.run w =
      (s.prompt.isSome || (s.names.findSome? w.environment.value?).isSome, w) := by
  unfold isAvailable
  cases s.prompt with
  | some prompt => rfl
  | none =>
    change Program.run (Option.isSome <$> firstSet s.names) w = _
    rw [Program.run_map, firstSet_run]
    rfl

theorem isAvailable_eq_false_iff :
    (s.isAvailable.run w).1 = false ↔
      (Action.run (s.resolve text) w).1 = .error (.config [.noToken s.backend]) := by
  rw [isAvailable_run, resolve_run]
  cases s.names.findSome? w.environment.value? with
  | some token => simp
  | none =>
    cases s.prompt with
    | none => simp
    | some prompt => cases hp : prompt.ask text <;> simp [Except.mapError, hp]

end TokenSource

namespace Opening

variable {c : Config} {w : World} {errors : List ConfigError}

theorem violated_of_noToken_mem {backend kind : Backend} {env : Environment}
    {rs : List Requirement} (h : .noToken kind ∈ report backend c env rs) :
    Requirement.serviceToken.Violated c env := by
  obtain ⟨r, hr, he⟩ := List.mem_map.mp h
  have hviolated : r.Violated c env := by simpa using (List.mem_filter.mp hr).2
  cases r with
  | serviceToken => exact hviolated
  | timeout | vault | host | gatewayToken | account | connector => cases he

theorem isAvailable_eq_false_of_violated (h : Requirement.serviceToken.Violated c w.environment) :
    ((tokenSource c .standard).isAvailable.run w).1 = false := by
  have hrun := (Action.run_perform _ w).symm.trans (isAvailable_perform c w)
  have hresult : ((tokenSource c .standard).isAvailable.run w).1 = available c w.environment :=
    Except.ok.inj (congrArg Prod.fst hrun)
  rw [hresult]
  exact (available_eq_false_iff c w.environment).mpr h

theorem standard_ne_config (h : report .standard c w.environment (requirements .standard) = [])
    (errors : List ConfigError) :
    (Action.run (standard c) w).1 ≠ .error (.config errors) := by
  rw [(standard_reports c w).opened h]
  exact opened_ne_config h _ _ errors

/-- With a token at hand, no configuration is refused for want of one. -/
theorem noToken_not_mem_of_available
    (ha : ((tokenSource c .standard).isAvailable.run w).1 = true)
    (h : (Action.run (standard c) w).1 = .error (.config errors)) (backend : Backend) :
    .noToken backend ∉ errors := by
  by_cases hr : report .standard c w.environment (requirements .standard) = []
  · exact absurd h (standard_ne_config hr errors)
  · obtain ⟨logger, hrun⟩ := (standard_reports c w).refused hr
    rw [hrun] at h
    cases h
    intro hmem
    rw [isAvailable_eq_false_of_violated (violated_of_noToken_mem hmem)] at ha
    cases ha

end Opening

/-- The first variable that has a name and a text as its value gives the token, and nobody is asked;
without any the user is asked once, with the text that was given; and without a user the want of a
token is reported. That a token is not available is said exactly where this will be reported, so a
keyring whose configuration has been accepted is not refused for want of a token. -/
theorem tokens_resolved_in_order (s : TokenSource) (text : String) (w : World) :
    ((∃ name ∈ s.names, ∃ token, w.environment.Gives name token) →
      ∃ token, w.environment.GivesFirst s.names token ∧
        Action.run (s.resolve text) w = (.ok token, w)) ∧
    ((∀ name ∈ s.names, ∀ token, ¬ w.environment.Gives name token) →
      Action.run (s.resolve text) w =
        match s.prompt with
        | some prompt =>
          ((prompt.ask text).mapError .prompt, { w with prompted := w.prompted ++ [text] })
        | none => (.error (.config [.noToken s.backend]), w)) ∧
    ((s.isAvailable.run w).2 = w ∧
      ((s.isAvailable.run w).1 = false ↔
        (Action.run (s.resolve text) w).1 = .error (.config [.noToken s.backend]))) ∧
    ∀ c : Config,
      (((Opening.tokenSource c .standard).isAvailable.run w).1 = true →
        ∀ errors, (Action.run (Opening.standard c) w).1 = .error (.config errors) →
          ∀ backend, .noToken backend ∉ errors) ∧
      ((∀ r ∈ Opening.requirements .standard, ¬ r.Violated c w.environment) →
        ∀ errors, (Action.run (Opening.standard c) w).1 ≠ .error (.config errors)) := by
  refine ⟨fun hgives => ?_, fun hnone => ?_, ⟨?_, s.isAvailable_eq_false_iff text w⟩,
    fun c => ⟨fun ha errors he => Opening.noToken_not_mem_of_available ha he, fun hmet => ?_⟩⟩
  · have hsome : s.names.findSome? w.environment.value? ≠ none := by
      rw [Ne, Environment.findSome?_value?_eq_none_iff]
      obtain ⟨name, hname, token, hg⟩ := hgives
      exact fun hnone => hnone name hname token hg
    obtain ⟨token, ht⟩ := Option.ne_none_iff_exists'.mp hsome
    refine ⟨token, Environment.findSome?_value?_iff.mp ht, ?_⟩
    rw [s.resolve_run, ht]
  · rw [s.resolve_run, Environment.findSome?_value?_eq_none_iff.mpr hnone]
    cases s.prompt <;> rfl
  · rw [s.isAvailable_run]
  · exact Opening.standard_ne_config (Opening.report_eq_nil_iff.mpr hmet)

section Tokens

def lateSource : TokenSource :=
  ⟨.standard, ["", "UNSET", "BINARY", "EMPTY", "LATE", "LATE"], some ⟨fun _ => .error .aborted⟩⟩

def lateWorld : World :=
  { World.ofVault (.ofItems []) Timestamp.noon with
    environment := ⟨[("BINARY", [0xFF]), ("EMPTY", []), ("LATE", textBytes "late"),
      ("OP_SERVICE_ACCOUNT_TOKEN", textBytes "ops")]⟩ }

def bareWorld : World := World.ofVault (.ofItems []) Timestamp.noon

def completeConfig : Config :=
  { Config.empty with
    vaultId := "v"
    timeout := { Duration.zero with seconds := 30 }
    hasConnector := true }

theorem late_variable_spares_the_user :
    (∃ name ∈ lateSource.names, ∃ token, lateWorld.environment.Gives name token) ∧
      (∃ token, lateWorld.environment.GivesFirst lateSource.names token ∧
        Action.run (lateSource.resolve "Token?") lateWorld = (.ok token, lateWorld)) ∧
      (∀ name ∈ lateSource.names, ∀ token, ¬ bareWorld.environment.Gives name token) ∧
      Action.run (lateSource.resolve "Token?") bareWorld =
        (.error (.prompt .aborted), { bareWorld with prompted := ["Token?"] }) ∧
      ((Opening.tokenSource .empty .standard).isAvailable.run lateWorld).1 = true ∧
      (∃ errors, (Action.run (Opening.standard .empty) lateWorld).1 = .error (.config errors) ∧
        .noToken .standard ∉ errors) ∧
      (∀ r ∈ Opening.requirements .standard,
        ¬ r.Violated completeConfig lateWorld.environment) ∧
      (Action.run (Opening.standard completeConfig) lateWorld).1 ≠
        .error (.config [.noToken .standard]) := by
  obtain ⟨hset, -, -, hopening⟩ := tokens_resolved_in_order lateSource "Token?" lateWorld
  obtain ⟨-, hunset, -⟩ := tokens_resolved_in_order lateSource "Token?" bareWorld
  have hgives : ∃ name ∈ lateSource.names, ∃ token, lateWorld.environment.Gives name token :=
    ⟨"LATE", by decide, "late", by decide, by decide, by decide⟩
  have hnone : ∀ name ∈ lateSource.names, ∀ token, ¬ bareWorld.environment.Gives name token :=
    Environment.findSome?_value?_eq_none_iff.mp (by decide)
  have havailable :
      ((Opening.tokenSource .empty .standard).isAvailable.run lateWorld).1 = true := by decide
  have hmet : ∀ r ∈ Opening.requirements .standard,
      ¬ r.Violated completeConfig lateWorld.environment := by decide
  have hrefused : (Action.run (Opening.standard .empty) lateWorld).1 =
      .error (.config [.zeroTimeout .standard, .unsetVariable .standard "OP_VAULT_ID",
        .noConnector .standard]) := rfl
  exact ⟨hgives, hset hgives, hnone, hunset hnone, havailable,
    ⟨_, hrefused, (hopening .empty).1 havailable _ hrefused .standard⟩, hmet,
    (hopening completeConfig).2 hmet _⟩

end Tokens

end VaultRing
