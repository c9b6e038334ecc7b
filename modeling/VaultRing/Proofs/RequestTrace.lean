import VaultRing.Proofs.LazyClient

namespace VaultRing

abbrev Asked := (r : Request) × r.Answer

namespace Asked

def looked (name : String) (value? : Option String) : Asked := ⟨.environment name, value?⟩

def prompted (prompt : Prompt) (text : String) (result : Except PromptFailure String) : Asked :=
  ⟨.prompt prompt text, result⟩

def connecting (a : ClientAuth) (result : Except TransportError Unit) : Asked :=
  ⟨.connect a integration, result⟩

def filling (slot : Slot) : Asked := ⟨.fill slot, ()⟩

end Asked

variable {α β : Type} {P : Request → Prop}

def Program.asked : Program α → World → List Asked
  | .done _, _ => []
  | .ask r next, w => ⟨r, (w.answer r).1⟩ :: (next (w.answer r).1).asked (w.answer r).2

def Action.asked (a : Action α) (w : World) : List Asked := Program.asked (ExceptT.run a) w

namespace Program

variable {p : Program α} {w : World}

theorem asked_bind (p : Program α) (f : α → Program β) (w : World) :
    (p.bind f).asked w = p.asked w ++ (f (p.run w).1).asked (p.run w).2 := by
  induction p generalizing w with
  | done a => rfl
  | ask r next ih =>
    have hrest := ih (w.answer r).1 (w.answer r).2
    exact congrArg (⟨r, (w.answer r).1⟩ :: ·) hrest

theorem AsksOnly.of_mem_asked (hp : p.AsksOnly P) {x : Asked} (hx : x ∈ p.asked w) : P x.1 := by
  induction p generalizing w with
  | done a => exact absurd hx List.not_mem_nil
  | ask r next ih =>
    rcases List.mem_cons.mp hx with rfl | hx
    · exact hp.1
    · exact ih _ (hp.2 _) hx

end Program

namespace Action

variable {a : Action α} {f : α → Action β} {w w' : World} {x : α} {e : KeyringError}

def andThen (a : Action α) (f : Except KeyringError α → Action β) : Action β :=
  ExceptT.mk (Program.bind (ExceptT.run a) fun result => ExceptT.run (f result))

section AndThen

def onSuccess (f : α → Action β) : Except KeyringError α → Action β
  | .ok x => f x
  | .error e => throw e

def onFailure (handle : KeyringError → Action α) : Except KeyringError α → Action α
  | .ok x => pure x
  | .error e => handle e

theorem bind_eq_andThen (a : Action α) (f : α → Action β) : a >>= f = a.andThen (onSuccess f) := by
  refine congrArg (Program.bind a) (funext fun result => ?_)
  cases result <;> rfl

theorem tryCatch_eq_andThen (a : Action α) (handle : KeyringError → Action α) :
    tryCatch a handle = a.andThen (onFailure handle) := by
  refine congrArg (Program.bind a) (funext fun result => ?_)
  cases result <;> rfl

theorem map_eq_andThen (f : α → β) (a : Action α) :
    f <$> a = a.andThen (onSuccess fun x => pure (f x)) := by
  refine congrArg (Program.bind a) (funext fun result => ?_)
  cases result <;> rfl

theorem run_andThen (a : Action α) (f : Except KeyringError α → Action β) (w : World) :
    Action.run (a.andThen f) w = Action.run (f (Action.run a w).1) (Action.run a w).2 :=
  Program.run_bind _ _ w

theorem asked_andThen (a : Action α) (f : Except KeyringError α → Action β) (w : World) :
    (a.andThen f).asked w = a.asked w ++ (f (Action.run a w).1).asked (Action.run a w).2 :=
  Program.asked_bind _ _ w

theorem AsksOnly.andThen {f : Except KeyringError α → Action β} (ha : a.AsksOnly P)
    (hf : ∀ result, (f result).AsksOnly P) : (a.andThen f).AsksOnly P := Program.AsksOnly.bind ha hf

end AndThen

theorem asked_bind_ok (h : Action.run a w = (.ok x, w')) :
    Action.asked (a >>= f) w = a.asked w ++ (f x).asked w' := by
  rw [bind_eq_andThen, asked_andThen, h]
  rfl

theorem asked_bind_error (h : Action.run a w = (.error e, w')) :
    Action.asked (a >>= f) w = a.asked w := by
  rw [bind_eq_andThen, asked_andThen, h]
  exact List.append_nil _

theorem asked_map (f : α → β) (a : Action α) (w : World) :
    Action.asked (f <$> a) w = a.asked w := by
  rw [map_eq_andThen, asked_andThen]
  cases (Action.run a w).1 <;> exact List.append_nil _

@[simp] theorem asked_perform (p : Program α) (w : World) :
    Action.asked (perform p) w = p.asked w := by
  refine (Program.asked_bind _ _ w).trans ?_
  exact List.append_nil _

end Action

section Effects

variable {p : Program α} {w : World}

def Request.callsVault : Request → Bool
  | .items .. | .gateway _ => true
  | _ => false

theorem World.answer_vault (w : World) {r : Request} (hr : r.callsVault = false) :
    (w.answer r).2.vault = w.vault := by
  cases r with
  | items limit call | gateway call => cases hr
  | connect auth integration =>
    change (w.connect auth integration).2.vault = _
    rw [w.connect_snd]
  | http request | newSlot | isFilled slot | fill slot | environment name | prompt prompt text
  | now | log entry => rfl

theorem Program.run_vault (h : ∀ x ∈ p.asked w, x.1.callsVault = false) :
    (p.run w).2.vault = w.vault := by
  induction p generalizing w with
  | done a => rfl
  | ask r next ih =>
    have hr : r.callsVault = false := h _ List.mem_cons_self
    have hrest := ih (w.answer r).1 (w := (w.answer r).2) fun x hx =>
      h x (List.mem_cons_of_mem _ hx)
    exact hrest.trans (w.answer_vault hr)

theorem World.mem_filled_answer_iff (w : World) (r : Request) (slot : Slot) :
    slot ∈ (w.answer r).2.filled ↔ slot ∈ w.filled ∨ r = .fill slot := by
  by_cases hr : r = .fill slot
  · subst hr
    exact iff_of_true List.mem_cons_self (.inr rfl)
  · rw [mem_filled_answer hr, or_iff_left hr]

theorem Program.mem_filled_run_iff (p : Program α) (w : World) (slot : Slot) :
    slot ∈ (p.run w).2.filled ↔ slot ∈ w.filled ∨ ∃ x ∈ p.asked w, x.1 = .fill slot := by
  induction p generalizing w with
  | done a => simp [Program.run, Program.asked]
  | ask r next ih =>
    have hasked : (∃ x ∈ (Program.ask r next).asked w, x.1 = .fill slot) ↔ r = .fill slot ∨
        ∃ x ∈ (next (w.answer r).1).asked (w.answer r).2, x.1 = .fill slot := by
      simp [Program.asked]
    change slot ∈ ((next (w.answer r).1).run (w.answer r).2).2.filled ↔ _
    rw [ih, hasked, w.mem_filled_answer_iff, or_assoc]

end Effects

section SameVault

/-- What a program can tell that has no use but for the vault and the clock. -/
structure World.SameVault (w w' : World) : Prop where
  vault : w'.vault = w.vault
  clock : w'.clock = w.clock

variable {backend : Backend} {limit : Duration} {w w' : World}

theorem World.SameVault.answer {r : Request} (h : w.SameVault w')
    (hr : (Transport.standard backend limit).MayAsk r) :
    (w'.answer r).1 = (w.answer r).1 ∧ (w.answer r).2.SameVault (w'.answer r).2 := by
  cases r with
  | items bound call =>
    refine ⟨?_, ?_, h.clock⟩
    · change (w'.vault.answerItems w'.clock bound call).1 = _
      rw [h.vault, h.clock]
      rfl
    · change (w'.vault.answerItems w'.clock bound call).2 = _
      rw [h.vault, h.clock]
      rfl
  | now => exact ⟨h.clock, h.vault, h.clock⟩
  | log entry => exact ⟨rfl, h.vault, h.clock⟩
  | _ => exact absurd hr id

theorem Program.AsksOnly.run_sameVault {p : Program α}
    (hp : p.AsksOnly (Transport.standard backend limit).MayAsk) (h : w.SameVault w') :
    (p.run w').1 = (p.run w).1 ∧ (p.run w).2.SameVault (p.run w').2 ∧ p.asked w' = p.asked w := by
  induction p generalizing w w' with
  | done a => exact ⟨rfl, h, rfl⟩
  | ask r next ih =>
    obtain ⟨hanswer, hsame⟩ := h.answer hp.1
    obtain ⟨hresult, hafter, hasked⟩ := ih (w.answer r).1 (hp.2 _) hsame
    simp only [Program.run, Program.asked, hanswer]
    exact ⟨hresult, hafter, by rw [hasked]⟩

end SameVault

end VaultRing
