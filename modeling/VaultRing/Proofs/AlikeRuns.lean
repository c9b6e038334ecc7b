import VaultRing.Opening
import VaultRing.Proofs.CoupledRuns
import VaultRing.Proofs.MaskedItems
import VaultRing.Proofs.VaultAccess

namespace VaultRing

variable {α β γ δ : Type} {vars : List String}

def Opening.settingVariables : List String := [vaultVariable, hostVariable, accountVariable]

/-- The same of the variables that tokens are taken from are set, and the settings are the same. -/
structure Environment.SameButTokens (vars : List String) (env env' : Environment) : Prop where
  set : ∀ name ∈ vars, (env.value? name).isSome = (env'.value? name).isSome
  settings : ∀ name ∈ Opening.settingVariables, env.value? name = env'.value? name

def Prompt.SameButTokens (p p' : Prompt) : Prop :=
  ∀ text, ResultsAlike Anyhow (p.ask text) (p'.ask text)

/-- What the two may differ in has been told to neither log. -/
structure World.AlikeButSecrets (vars : List String) (w w' : World) : Prop where
  vault : w.vault.masked = w'.vault.masked
  connector : w.connectorFailure = w'.connectorFailure
  slots : w.slots = w'.slots
  filled : w.filled = w'.filled
  environment : w.environment.SameButTokens vars w'.environment
  logger : w.logger = w'.logger

abbrev Program.Alike (vars : List String) (R : α → β → Prop) (p : Program α) (p' : Program β) :
    Prop :=
  p.Couples (World.AlikeButSecrets vars) R p'

abbrev Action.Alike (vars : List String) (S : α → β → Prop) (a : Action α) (a' : Action β) : Prop :=
  a.Couples (World.AlikeButSecrets vars) S a'

def Action.LeaveAlike (vars : List String) (a : Action α) (a' : Action β) : Prop :=
  Program.Alike vars Anyhow (ExceptT.run a) (ExceptT.run a')

namespace Action.LeaveAlike

variable {S : α → β → Prop} {a : Action α} {a' : Action β}

theorem of_alike (h : a.Alike vars S a') : a.LeaveAlike vars a' := h.mono fun _ _ _ => trivial

theorem ofExcept (r : Except KeyringError α) (r' : Except KeyringError β) :
    Action.LeaveAlike vars (Action.ofExcept r) (Action.ofExcept r') := fun _ _ hw => ⟨trivial, hw⟩

theorem bind {f : α → Action γ} {f' : β → Action δ} (ha : a.Alike vars S a')
    (hf : ∀ x y, S x y → (f x).LeaveAlike vars (f' y)) :
    Action.LeaveAlike vars (a >>= f) (a' >>= f') := by
  apply Program.Couples.bind ha
  intro r r' hr
  cases hr with
  | ok h => exact hf _ _ h
  | error e => exact .pure trivial

/-- What follows has no effect on the world. -/
theorem andThen {f : Except KeyringError α → Except KeyringError γ}
    {f' : Except KeyringError β → Except KeyringError δ} (ha : a.LeaveAlike vars a') {b : Action γ}
    {b' : Action δ} (hb : ∀ w, Action.run b w = (f (Action.run a w).1, (Action.run a w).2))
    (hb' : ∀ w, Action.run b' w = (f' (Action.run a' w).1, (Action.run a' w).2)) :
    b.LeaveAlike vars b' := by
  intro w w' hw
  have hrun := hb w
  have hrun' := hb' w'
  rw [Action.run] at hrun hrun'
  rw [hrun, hrun']
  exact ⟨trivial, (ha w w' hw).2⟩

end Action.LeaveAlike

section Requests

theorem Program.log_alike (level : LogLevel) (source : LogSource) (message : String) :
    (Program.log level source message).Alike vars Eq (Program.log level source message) := by
  intro w w' hw
  refine ⟨rfl, ?_⟩
  change World.AlikeButSecrets vars { w with logger := w.logger.add _ }
    { w' with logger := w'.logger.add _ }
  rw [hw.logger]
  exact ⟨hw.vault, hw.connector, hw.slots, hw.filled, hw.environment, rfl⟩

theorem Action.log_alike (level : LogLevel) (source : LogSource) (message : String) :
    (Action.log level source message).Alike vars Eq (Action.log level source message) :=
  .perform (Program.log_alike level source message)

theorem Program.now_alike : Program.now.Alike vars Anyhow Program.now :=
  fun _ _ hw => ⟨trivial, hw⟩

theorem Program.newSlot_alike : Program.newSlot.Alike vars Eq Program.newSlot := by
  intro w w' hw
  exact ⟨hw.slots, hw.vault, hw.connector, congrArg (· + 1) hw.slots, hw.filled, hw.environment,
    hw.logger⟩

theorem Program.isFilled_alike (slot : Slot) :
    (Program.isFilled slot).Alike vars Eq (Program.isFilled slot) :=
  fun _ _ hw => ⟨congrArg (·.contains slot) hw.filled, hw⟩

theorem Program.fill_alike (slot : Slot) :
    (Program.fill slot).Alike vars Eq (Program.fill slot) := by
  intro w w' hw
  exact ⟨rfl, hw.vault, hw.connector, hw.slots, congrArg (slot :: ·) hw.filled, hw.environment,
    hw.logger⟩

theorem Program.connect_alike (auth auth' : ClientAuth) (integration : Integration) :
    (Program.connect auth integration).Alike vars Eq (Program.connect auth' integration) := by
  intro w w' hw
  change (w.connect auth integration).1 = (w'.connect auth' integration).1 ∧
    (w.connect auth integration).2.AlikeButSecrets vars (w'.connect auth' integration).2
  rw [World.connect_result, World.connect_result, hw.connector, World.connect_snd,
    World.connect_snd]
  exact ⟨rfl, hw.vault, hw.connector, hw.slots, hw.filled, hw.environment, hw.logger⟩

theorem Program.lookup_alike {name : String} (h : name ∈ Opening.settingVariables) :
    (Program.lookup name).Alike vars Eq (Program.lookup name) :=
  fun _ _ hw => ⟨hw.environment.settings name h, hw⟩

theorem Environment.SameButTokens.findSome? {env env' : Environment}
    (h : env.SameButTokens vars env') {names : List String} (hnames : ∀ name ∈ names, name ∈ vars) :
    (names.findSome? env.value?).isSome = (names.findSome? env'.value?).isSome := by
  induction names with
  | nil => rfl
  | cons name names ih =>
    have hset := h.set name (hnames name List.mem_cons_self)
    rw [List.findSome?_cons, List.findSome?_cons]
    cases hv : env.value? name with
    | some value =>
      obtain ⟨value', hv'⟩ := Option.isSome_iff_exists.mp (hset.symm.trans (by rw [hv]; rfl))
      rw [hv']
      rfl
    | none =>
      have hv' : env'.value? name = none := by
        rw [hv] at hset
        exact Option.isNone_iff_eq_none.mp (by simpa using hset.symm)
      rw [hv']
      exact ih fun name hname => hnames name (List.mem_cons_of_mem _ hname)

/-- Both find a token, or both find none. -/
theorem TokenSource.firstSet_alike {names : List String} (h : ∀ name ∈ names, name ∈ vars) :
    (TokenSource.firstSet names).Alike vars (fun t t' => t.isSome = t'.isSome)
      (TokenSource.firstSet names) := by
  intro w w' hw
  rw [firstSet_run, firstSet_run]
  exact ⟨hw.environment.findSome? h, hw⟩

theorem Program.prompt_alike {p p' : Prompt} (h : p.SameButTokens p') (text : String) :
    (Program.request (.prompt p text)).Alike vars (ResultsAlike Anyhow)
      (Program.request (.prompt p' text)) := by
  intro w w' hw
  exact ⟨h text, hw.vault, hw.connector, hw.slots, hw.filled, hw.environment, hw.logger⟩

end Requests

end VaultRing
