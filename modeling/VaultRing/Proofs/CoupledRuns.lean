import VaultRing.Proofs.ProgramRun

/-!
Programs side by side, each in a world of its own. A relation on worlds that every pair of requests
keeps is kept by whole programs, and their results are related as those of the requests are.
-/
namespace VaultRing

variable {α β γ δ : Type}

/-- Successes with related values, or one and the same error. -/
inductive ResultsAlike {ε : Type} (S : α → β → Prop) : Except ε α → Except ε β → Prop where
  | ok {x : α} {y : β} (h : S x y) : ResultsAlike S (.ok x) (.ok y)
  | error (e : ε) : ResultsAlike S (.error e) (.error e)

def Anyhow (_ : α) (_ : β) : Prop := True

section Results

variable {ε ε' : Type} {S : α → β → Prop}

theorem ResultsAlike.mapError {r : Except ε α} {r' : Except ε β} (h : ResultsAlike S r r')
    (f : ε → ε') : ResultsAlike S (r.mapError f) (r'.mapError f) := by
  cases h with
  | ok h => exact .ok h
  | error e => exact .error (f e)

theorem ResultsAlike.map {T : γ → δ → Prop} {r : Except ε α} {r' : Except ε β}
    (h : ResultsAlike S r r') {f : α → γ} {f' : β → δ} (hf : ∀ x y, S x y → T (f x) (f' y)) :
    ResultsAlike T (r.map f) (r'.map f') := by
  cases h with
  | ok h => exact .ok (hf _ _ h)
  | error e => exact .error e

theorem ResultsAlike.of_eq {r : Except ε α} : ResultsAlike Eq r r := by
  cases r with
  | ok x => exact .ok rfl
  | error e => exact .error e

theorem ResultsAlike.of_map_eq {mask : α → β} {r r' : Except ε α} (h : r.map mask = r'.map mask) :
    ResultsAlike (fun x y => mask x = mask y) r r' := by
  cases r with
  | ok x =>
    cases r' with
    | ok y => exact .ok (Except.ok.inj h)
    | error e => cases h
  | error e =>
    cases r' with
    | ok y => cases h
    | error e' =>
      obtain rfl : e = e' := Except.error.inj h
      exact .error e

end Results

variable {I : World → World → Prop}

/-- From worlds in the relation `I`, the two end with related results in worlds in the relation. -/
def Program.Couples (I : World → World → Prop) (R : α → β → Prop) (p : Program α)
    (p' : Program β) : Prop :=
  ∀ w w' : World, I w w' → R (p.run w).1 (p'.run w').1 ∧ I (p.run w).2 (p'.run w').2

namespace Program.Couples

variable {R : α → β → Prop} {T : γ → δ → Prop}

theorem pure {x : α} {y : β} (h : R x y) :
    Program.Couples I R (Pure.pure x : Program α) (Pure.pure y : Program β) :=
  fun _ _ hw => ⟨h, hw⟩

theorem bind {p : Program α} {p' : Program β} {f : α → Program γ} {f' : β → Program δ}
    (hp : p.Couples I R p') (hf : ∀ x y, R x y → (f x).Couples I T (f' y)) :
    Program.Couples I T (p >>= f) (p' >>= f') := by
  intro w w' hw
  obtain ⟨hr, hw₁⟩ := hp w w' hw
  rw [run_monadBind, run_monadBind]
  exact hf _ _ hr _ _ hw₁

theorem bind_same {p p' : Program α} {f : α → Program γ} {f' : α → Program δ}
    (hp : p.Couples I Eq p') (hf : ∀ x, (f x).Couples I T (f' x)) :
    Program.Couples I T (p >>= f) (p' >>= f') := by
  apply hp.bind
  rintro x _ rfl
  exact hf x

theorem mono {R' : α → β → Prop} {p : Program α} {p' : Program β} (hp : p.Couples I R p')
    (h : ∀ x y, R x y → R' x y) : p.Couples I R' p' := fun w w' hw =>
  ⟨h _ _ (hp w w' hw).1, (hp w w' hw).2⟩

end Program.Couples

def Action.Couples (I : World → World → Prop) (S : α → β → Prop) (a : Action α)
    (a' : Action β) : Prop :=
  Program.Couples I (ResultsAlike S) (ExceptT.run a) (ExceptT.run a')

namespace Action.Couples

variable {S : α → β → Prop} {T : γ → δ → Prop} {a : Action α} {a' : Action β}

theorem ofExcept {r : Except KeyringError α} {r' : Except KeyringError β}
    (h : ResultsAlike S r r') :
    Action.Couples I S (Action.ofExcept r) (Action.ofExcept r') := fun _ _ hw => ⟨h, hw⟩

theorem pure {x : α} {y : β} (h : S x y) : Action.Couples I S (Pure.pure x) (Pure.pure y) :=
  ofExcept (.ok h)

theorem throw (e : KeyringError) :
    Action.Couples I S (MonadExcept.throw e : Action α) (MonadExcept.throw e : Action β) :=
  ofExcept (.error e)

theorem perform {p : Program α} {p' : Program β} (h : p.Couples I S p') :
    Action.Couples I S (Action.perform p) (Action.perform p') := by
  intro w w' hw
  obtain ⟨hr, hw₁⟩ := h w w' hw
  have hrun := run_perform p w
  have hrun' := run_perform p' w'
  rw [Action.run] at hrun hrun'
  rw [hrun, hrun']
  exact ⟨.ok hr, hw₁⟩

theorem orFail {ε : Type} {p : Program (Except ε α)} {p' : Program (Except ε β)}
    (h : p.Couples I (ResultsAlike S) p') (wrap : ε → KeyringError) :
    Action.Couples I S (Action.orFail p wrap) (Action.orFail p' wrap) := by
  intro w w' hw
  obtain ⟨hr, hw₁⟩ := h w w' hw
  have hrun := run_orFail p wrap w
  have hrun' := run_orFail p' wrap w'
  rw [Action.run] at hrun hrun'
  rw [hrun, hrun']
  exact ⟨hr.mapError wrap, hw₁⟩

theorem bind {f : α → Action γ} {f' : β → Action δ} (ha : a.Couples I S a')
    (hf : ∀ x y, S x y → (f x).Couples I T (f' y)) :
    Action.Couples I T (a >>= f) (a' >>= f') := by
  apply Program.Couples.bind ha
  intro r r' hr
  cases hr with
  | ok h => exact hf _ _ h
  | error e => exact Program.Couples.pure (.error e)

theorem bind_same {a a' : Action α} {f : α → Action γ} {f' : α → Action δ}
    (ha : a.Couples I Eq a') (hf : ∀ x, (f x).Couples I T (f' x)) :
    Action.Couples I T (a >>= f) (a' >>= f') := by
  apply ha.bind
  rintro x _ rfl
  exact hf x

theorem map {f : α → γ} {f' : β → δ} (ha : a.Couples I S a')
    (hf : ∀ x y, S x y → T (f x) (f' y)) : Action.Couples I T (f <$> a) (f' <$> a') := by
  apply Program.Couples.bind ha
  intro r r' hr
  cases hr with
  | ok h => exact Program.Couples.pure (.ok (hf _ _ h))
  | error e => exact Program.Couples.pure (.error e)

theorem tryCatch {handle : KeyringError → Action α} {handle' : KeyringError → Action β}
    (ha : a.Couples I S a') (hh : ∀ e, (handle e).Couples I S (handle' e)) :
    Action.Couples I S (MonadExcept.tryCatch a handle) (MonadExcept.tryCatch a' handle') := by
  apply Program.Couples.bind ha
  intro r r' hr
  cases hr with
  | ok h => exact Program.Couples.pure (.ok h)
  | error e => exact hh e

end Action.Couples

end VaultRing
