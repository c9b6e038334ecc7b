import VaultRing.Proofs.AlikeKeyrings
import VaultRing.Proofs.KeyringSession
import VaultRing.Proofs.OpeningReport

namespace VaultRing

variable {vars : List String}

structure Config.SameButTokens (vars : List String) (c c' : Config) : Prop where
  settings : c' = { c with prompt := c'.prompt }
  gatewayTokens : ∀ name ∈ [c.connectTokenVariable, Opening.connectTokenVariable], name ∈ vars
  accountTokens : ∀ name ∈ [c.tokenVariable, Opening.serviceTokenVariable], name ∈ vars
  prompt : Option.Rel Prompt.SameButTokens c.prompt c'.prompt

namespace Opening

variable {c c' : Config}

theorem configuredOr_alike (value : String) {name : String} (h : name ∈ settingVariables) :
    (configuredOr value name).Alike vars Eq (configuredOr value name) := by
  unfold configuredOr
  split
  · exact Program.lookup_alike h
  · exact .pure rfl

theorem scope_alike (h : c.SameButTokens vars c') (backend : Backend) :
    (scope c backend).Alike vars Eq (scope c' backend) := by
  rw [h.settings]
  exact (configuredOr_alike c.vaultId (by simp [settingVariables])).bind_same
    fun vaultId => .pure rfl

theorem refuseIf_alike (errors : List ConfigError) (source : LogSource) (name : String) :
    (refuseIf errors source name).Alike vars Eq (refuseIf errors source name) := by
  unfold refuseIf
  split
  · exact .pure rfl
  · exact (Action.log_alike _ _ _).bind_same fun _ => .throw _

theorem tokenSource_alike (h : c.SameButTokens vars c') (backend : Backend) :
    (tokenSource c backend).SameButTokens vars (tokenSource c' backend) := by
  refine ⟨rfl, ?_, h.accountTokens, h.prompt⟩
  rw [h.settings]
  rfl

theorem isAvailable_alike {s s' : TokenSource} (h : s.SameButTokens vars s') :
    s.isAvailable.Alike vars Eq s'.isAvailable := by
  obtain ⟨backend, names, prompt⟩ := s
  obtain ⟨backend', names', prompt'⟩ := s'
  obtain ⟨rfl, rfl, hnames, hprompt⟩ := h
  cases hprompt with
  | some h => exact .pure rfl
  | none => exact (TokenSource.firstSet_alike hnames).bind fun _ _ h => .pure h

theorem create_alike (host token token' : String) :
    ResultsAlike Anyhow (HttpClient.create host token) (HttpClient.create host token') := by
  unfold HttpClient.create
  dsimp only
  split
  · exact .ok trivial
  · exact .error _

theorem required_congr (backend : Backend) (name : String) {value value' : Option String}
    (h : value.isSome = value'.isSome) :
    required backend name value = required backend name value' := by
  unfold required
  rw [h]

theorem connect_alike (h : c.SameButTokens vars c') :
    (connect c).Alike vars (Keyring.SameButTokens vars) (connect c') := by
  refine (Action.Couples.perform (scope_alike h _)).bind_same fun scope => ?_
  rw [h.settings]
  refine (Action.Couples.perform
    (configuredOr_alike c.connectHost (by simp [settingVariables]))).bind_same fun host => ?_
  refine (Action.Couples.perform (TokenSource.firstSet_alike h.gatewayTokens)).bind
    fun token token' htoken => ?_
  rw [required_congr _ _ htoken]
  refine (refuseIf_alike _ _ _).bind_same fun _ => ?_
  refine (Action.Couples.ofExcept ((create_alike _ _ _).mapError _)).bind fun client client' _ => ?_
  refine (Action.log_alike _ _ _).bind_same fun _ => .pure ?_
  exact ⟨rfl, .http client client', rfl⟩

theorem desktop_alike (h : c.SameButTokens vars c') :
    (desktop c).Alike vars (Keyring.SameButTokens vars) (desktop c') := by
  refine (Action.Couples.perform (scope_alike h _)).bind_same fun scope => ?_
  rw [h.settings]
  refine (Action.Couples.perform
    (configuredOr_alike c.desktopAccount (by simp [settingVariables]))).bind_same
    fun account => ?_
  refine (refuseIf_alike _ _ _).bind_same fun _ => (Action.log_alike _ _ _).bind_same fun _ => ?_
  refine (Action.Couples.perform Program.newSlot_alike).bind_same fun slot => ?_
  exact .pure ⟨rfl, .lazy _ _ _ (.desktop _), rfl⟩

theorem serviceAccount_alike (h : c.SameButTokens vars c') :
    (serviceAccount c).Alike vars (Keyring.SameButTokens vars) (serviceAccount c') := by
  have htokens := tokenSource_alike h .serviceAccount
  refine (Action.Couples.perform (scope_alike h _)).bind_same fun scope => ?_
  generalize tokenSource c' .serviceAccount = tokens' at htokens ⊢
  rw [h.settings]
  refine (refuseIf_alike _ _ _).bind_same fun _ => ?_
  refine (Action.Couples.perform Program.newSlot_alike).bind_same fun slot => ?_
  refine (Action.log_alike _ _ _).bind_same fun _ => .pure ?_
  exact ⟨rfl, .lazy _ _ _ (.serviceAccount htokens), rfl⟩

theorem standard_alike (h : c.SameButTokens vars c') :
    (standard c).Alike vars (Keyring.SameButTokens vars) (standard c') := by
  have htokens := tokenSource_alike h .standard
  refine (Action.Couples.perform (scope_alike h _)).bind_same fun scope => ?_
  refine (Action.Couples.perform (isAvailable_alike htokens)).bind_same fun available => ?_
  generalize tokenSource c' .standard = tokens' at htokens ⊢
  rw [h.settings]
  refine (refuseIf_alike _ _ _).bind_same fun _ => ?_
  refine (TokenSource.resolve_alike htokens _).bind fun token token' _ => ?_
  refine (Action.Couples.perform (Program.connect_alike _ _ _)).bind_same fun result => ?_
  cases result with
  | ok => exact (Action.log_alike _ _ _).bind_same fun _ => .pure ⟨rfl, .standard _ _, rfl⟩
  | error source => exact (Action.log_alike _ _ _).bind_same fun _ => .throw _

theorem keyring_alike (h : c.SameButTokens vars c') (backend : Backend) :
    (keyring backend c).Alike vars (Keyring.SameButTokens vars) (keyring backend c') := by
  cases backend with
  | connect => exact connect_alike h
  | desktop => exact desktop_alike h
  | serviceAccount => exact serviceAccount_alike h
  | standard => exact standard_alike h

end Opening

theorem Registry.find?_defaults (backend : Backend) :
    defaults.find? backend = some ⟨backend, description backend, Opening.keyring backend⟩ := by
  cases backend <;>
    simp [defaults, find?, register, empty, Backend.all, Backend.rank]

theorem Opening.openKeyring_alike {c c' : Config} (h : c.SameButTokens vars c')
    (backend : Backend) :
    (Registry.defaults.openKeyring backend c).Alike vars (Keyring.SameButTokens vars)
      (Registry.defaults.openKeyring backend c') := by
  unfold Registry.openKeyring
  rw [Registry.find?_defaults]
  exact (Action.log_alike _ _ _).bind_same fun _ => keyring_alike h backend

theorem Opening.ask_alike {c c' : Config} (h : c.SameButTokens vars c') (way : Way)
    (backend : Backend) :
    (way.ask backend c).Alike vars (Keyring.SameButTokens vars) (way.ask backend c') := by
  cases way with
  | constructor => exact keyring_alike h backend
  | byBackend => exact openKeyring_alike h backend
  | byName =>
    have hname : Backend.ofName? backend.name = some backend := by cases backend <;> rfl
    change Action.Alike vars _ (Registry.defaults.openNamed backend.name c)
      (Registry.defaults.openNamed backend.name c')
    rw [Registry.openNamed, Registry.openNamed, hname]
    exact openKeyring_alike h backend

/-- What is done with the library: to open a keyring, to bring along one that has been made of its
parts, or to operate one of those had so far. -/
inductive Deed where
  | ask (way : Opening.Way) (backend : Backend) (config : Config)
  | bring (keyring : Keyring)
  | operate (place : Nat) (operation : Operation)

structure Move where
  conditions : Conditions
  deed : Deed

structure Session where
  /-- The keyrings had so far, with a gap for each that could not be opened. -/
  keyrings : List (Option Keyring)
  world : World

namespace Session

def keyring? (s : Session) (place : Nat) : Option Keyring := s.keyrings[place]?.join

def operated? (s : Session) : Deed → Option Keyring
  | .ask .. | .bring _ => none
  | .operate place _ => s.keyring? place

def after (s : Session) (m : Move) : Session :=
  let w := s.world.under m.conditions
  match m.deed with
  | .ask way backend config =>
    let (result, w) := Action.run (way.ask backend config) w
    ⟨s.keyrings ++ [result.toOption], w⟩
  | .bring keyring => ⟨s.keyrings ++ [some keyring], w⟩
  | .operate place operation =>
    match s.keyring? place with
    | none => ⟨s.keyrings, w⟩
    | some keyring => ⟨s.keyrings, (Action.run (keyring.perform operation) w).2⟩

def run : Session → List Move → Session
  | s, [] => s
  | s, m :: moves => (s.after m).run moves

def operated : Session → List Move → List Keyring
  | _, [] => []
  | s, m :: moves => (s.operated? m.deed).toList ++ (s.after m).operated moves

end Session

section SideBySide

inductive Deed.SameButSecrets (vars : List String) : Deed → Deed → Prop where
  | ask (way : Opening.Way) (backend : Backend) {c c' : Config} (h : c.SameButTokens vars c') :
      Deed.SameButSecrets vars (.ask way backend c) (.ask way backend c')
  | bring {k k' : Keyring} (h : k.SameButTokens vars k') :
      Deed.SameButSecrets vars (.bring k) (.bring k')
  | operate (place : Nat) {operation operation' : Operation}
      (h : operation.SameButBytes operation') :
      Deed.SameButSecrets vars (.operate place operation) (.operate place operation')

/-- Their clocks may differ, too. -/
structure Conditions.SameButTokens (vars : List String) (c c' : Conditions) : Prop where
  settings : c' = { c with environment := c'.environment, clock := c'.clock }
  environment : c.environment.SameButTokens vars c'.environment

structure Move.SameButSecrets (vars : List String) (m m' : Move) : Prop where
  conditions : m.conditions.SameButTokens vars m'.conditions
  deed : m.deed.SameButSecrets vars m'.deed

structure Session.AlikeButSecrets (vars : List String) (s s' : Session) : Prop where
  keyrings : List.Forall₂ (Option.Rel (Keyring.SameButTokens vars)) s.keyrings s'.keyrings
  world : s.world.AlikeButSecrets vars s'.world

theorem World.AlikeButSecrets.under {w w' : World} (h : w.AlikeButSecrets vars w')
    {c c' : Conditions} (hc : c.SameButTokens vars c') :
    (w.under c).AlikeButSecrets vars (w'.under c') := by
  rw [hc.settings]
  refine ⟨?_, rfl, h.slots, h.filled, hc.environment, h.logger⟩
  change { w.vault.masked with failure := c.failure, delay := c.delay } =
    { w'.vault.masked with failure := c.failure, delay := c.delay }
  rw [h.vault]

variable {s s' : Session}

theorem Session.AlikeButSecrets.keyring? (h : s.AlikeButSecrets vars s') (place : Nat) :
    Option.Rel (Keyring.SameButTokens vars) (s.keyring? place) (s'.keyring? place) := by
  have hkeyrings := h.keyrings
  unfold Session.keyring?
  generalize s.keyrings = ks at hkeyrings ⊢
  generalize s'.keyrings = ks' at hkeyrings ⊢
  induction hkeyrings generalizing place with
  | nil => exact .none
  | cons hk _ ih =>
    cases place with
    | zero => exact hk
    | succ place => exact ih place

theorem ResultsAlike.toOption {r r' : Except KeyringError Keyring}
    (h : ResultsAlike (Keyring.SameButTokens vars) r r') :
    Option.Rel (Keyring.SameButTokens vars) r.toOption r'.toOption := by
  cases h with
  | ok h => exact .some h
  | error e => exact .none

theorem Session.AlikeButSecrets.after (h : s.AlikeButSecrets vars s') {m m' : Move}
    (hm : m.SameButSecrets vars m') (ho : ∀ k ∈ s.operated? m.deed, k.transport.OverVault) :
    (s.after m).AlikeButSecrets vars (s'.after m') := by
  have hw := h.world.under hm.conditions
  obtain ⟨conditions, deed⟩ := m
  obtain ⟨conditions', deed'⟩ := m'
  cases hm.deed with
  | ask way backend hc =>
    obtain ⟨hresult, hw₁⟩ := Opening.ask_alike hc way backend _ _ hw
    exact ⟨List.rel_append h.keyrings (.cons hresult.toOption .nil), hw₁⟩
  | bring hk => exact ⟨List.rel_append h.keyrings (.cons (.some hk) .nil), hw⟩
  | operate place hop =>
    have hk := h.keyring? place
    change ∀ k ∈ s.keyring? place, k.transport.OverVault at ho
    unfold Session.after
    dsimp only
    generalize s.keyring? place = k at hk ho ⊢
    generalize s'.keyring? place = k' at hk ⊢
    cases hk with
    | none => exact ⟨h.keyrings, hw⟩
    | some hk => exact ⟨h.keyrings, (Keyring.perform_leaveAlike hk (ho _ rfl) hop _ _ hw).2⟩

theorem Session.AlikeButSecrets.run {moves moves' : List Move}
    (hmoves : List.Forall₂ (Move.SameButSecrets vars) moves moves') (h : s.AlikeButSecrets vars s')
    (ho : ∀ k ∈ s.operated moves, k.transport.OverVault) :
    (s.run moves).AlikeButSecrets vars (s'.run moves') := by
  induction hmoves generalizing s s' with
  | nil => exact h
  | cons hm _ ih =>
    refine ih (h.after hm fun k hk => ho k ?_) fun k hk => ho k ?_
    · exact List.mem_append_left _ (Option.mem_toList.mpr hk)
    · exact List.mem_append_right _ hk

/-- Two sessions that keep to vaults, and differ in nothing but tokens, values, the bytes to store
and what their clocks show. An entry of the log has no time stamp. -/
theorem secrets_stay_out_of_log {moves moves' : List Move}
    (hmoves : List.Forall₂ (Move.SameButSecrets vars) moves moves') (h : s.AlikeButSecrets vars s')
    (ho : ∀ k ∈ s.operated moves, k.transport.OverVault) :
    (s.run moves).world.logger = (s'.run moves').world.logger :=
  (h.run hmoves ho).world.logger

end SideBySide

instance : (t : Transport) → Decidable t.OverVault
  | .standard .. | .lazy .. | .connect .vault => isTrue trivial
  | .connect (.http _) => isFalse id

section TwoSessions

def secretConfig (token : String) : Config :=
  { Config.empty with
    vaultId := "v"
    timeout := Duration.ofNanoseconds 1000000000
    tokenVariable := "TOKEN"
    prompt := some ⟨fun _ => .ok token⟩
    hasConnector := true }

def secretConditions (clock : Timestamp) (token : String) : Conditions where
  clock := clock
  failure := none
  delay := none
  connectorFailure := none
  environment := Environment.empty.set "TOKEN" (some (textBytes token))

def secretSession (clock : Timestamp) (value : String) : Session where
  keyrings := []
  world :=
    { World.ofVault (.ofItems [⟨"1", "keyring: k", .apiCredential, "v", ["keyring"],
          [⟨"f", "keyring", .concealed, value⟩], .active, some clock⟩]) clock with
      logger := Logger.disabled.enable .trace }

def secretMoves (clock : Timestamp) (token asked : String) (data : Bytes) : List Move :=
  [.ask .byName .serviceAccount (secretConfig asked),
    .ask .constructor .standard (secretConfig asked), .operate 0 (.get "k"),
    .operate 0 (.set ⟨"n", data⟩), .operate 1 .keys].map
      (Move.mk (secretConditions clock token))

def secretVariables : List String :=
  ["", Opening.connectTokenVariable, "TOKEN", Opening.serviceTokenVariable]

theorem secretConfig_alike (token token' : String) :
    (secretConfig token).SameButTokens secretVariables (secretConfig token') where
  settings := rfl
  gatewayTokens := by simp [secretConfig, secretVariables, Config.empty]
  accountTokens := by simp [secretConfig, secretVariables]
  prompt := .some fun _ => .ok trivial

theorem secretMoves_alike :
    List.Forall₂ (Move.SameButSecrets secretVariables) (secretMoves Timestamp.noon "a=1" "b" [1])
      (secretMoves Timestamp.atTwo "c==" "d" [2]) := by
  have hconditions : (secretConditions Timestamp.noon "a=1").SameButTokens secretVariables
      (secretConditions Timestamp.atTwo "c==") :=
    ⟨rfl, by decide +kernel, by decide +kernel⟩
  have hconfig := secretConfig_alike "b" "d"
  exact .cons ⟨hconditions, .ask _ _ hconfig⟩ <| .cons ⟨hconditions, .ask _ _ hconfig⟩ <|
    .cons ⟨hconditions, .operate _ (.refl _)⟩ <| .cons ⟨hconditions, .operate _ (.set rfl rfl)⟩ <|
    .cons ⟨hconditions, .operate _ (.refl _)⟩ .nil

theorem secretSession_alike (clock clock' : Timestamp) (value value' : String) :
    (secretSession clock value).AlikeButSecrets secretVariables
      (secretSession clock' value') where
  keyrings := .nil
  world := ⟨rfl, rfl, rfl, rfl, ⟨fun _ _ => rfl, fun _ _ => rfl⟩, rfl⟩

/-- The value that is got can be decoded in the second session only, two hours later. -/
theorem junk_is_logged_as_value :
    ((secretSession Timestamp.noon "junk").run
        (secretMoves Timestamp.noon "a=1" "b" [1])).world.logger =
        ((secretSession Timestamp.atTwo (Payload.write ⟨"k", [7]⟩)).run
          (secretMoves Timestamp.atTwo "c==" "d" [2])).world.logger ∧
      ((secretSession Timestamp.noon "junk").run
          (secretMoves Timestamp.noon "a=1" "b" [1])).world.logger.file.map (·.map (·.message)) =
        some ["Opening op keyring", "Service account keyring opened: vault=v",
          "Standard keyring ready: vault=v", "op get() key=\"k\"",
          "Connecting op client: ServiceAccountToken(..)",
          "op set() creating key=\"n\", value len=25", "op-standard keys() found 2 keys"] := by
  have hvault : ∀ k ∈ (secretSession Timestamp.noon "junk").operated
      (secretMoves Timestamp.noon "a=1" "b" [1]), k.transport.OverVault := by decide +kernel
  exact ⟨secrets_stay_out_of_log secretMoves_alike (secretSession_alike _ _ _ _) hvault,
    by decide +kernel⟩

end TwoSessions

end VaultRing
