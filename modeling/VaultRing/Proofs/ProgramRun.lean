import VaultRing.World

namespace VaultRing

variable {α β : Type}

namespace Program

@[simp] theorem run_bind (p : Program α) (f : α → Program β) (w : World) :
    (p.bind f).run w = (f (p.run w).1).run (p.run w).2 := by
  induction p generalizing w with
  | done a => rfl
  | ask r next ih => exact ih _ _

@[simp] theorem run_monadBind (p : Program α) (f : α → Program β) (w : World) :
    (p >>= f).run w = (f (p.run w).1).run (p.run w).2 := run_bind p f w

@[simp] theorem run_map (f : α → β) (p : Program α) (w : World) :
    (f <$> p).run w = (f (p.run w).1, (p.run w).2) := run_bind p (fun a => .done (f a)) w

end Program

namespace Action

theorem run_bind (a : Action α) (f : α → Action β) (w : World) :
    Action.run (a >>= f) w =
      match Action.run a w with
      | (.ok x, w') => Action.run (f x) w'
      | (.error e, w') => (.error e, w') := by
  refine (Program.run_bind _ _ w).trans ?_
  change _ = match Program.run a w with
    | (.ok x, w') => Action.run (f x) w'
    | (.error e, w') => (.error e, w')
  generalize Program.run a w = r
  rcases r with ⟨_ | _, _⟩ <;> rfl

theorem run_bind_ok {a : Action α} {f : α → Action β} {w w' : World} {x : α}
    (h : Action.run a w = (.ok x, w')) : Action.run (a >>= f) w = Action.run (f x) w' := by
  rw [run_bind, h]

theorem run_bind_error {a : Action α} {f : α → Action β} {w w' : World} {e : KeyringError}
    (h : Action.run a w = (.error e, w')) : Action.run (a >>= f) w = (.error e, w') := by
  rw [run_bind, h]

theorem exists_of_run_bind_ok {a : Action α} {f : α → Action β} {w : World} {y : β}
    (h : (Action.run (a >>= f) w).1 = .ok y) :
    ∃ x w', Action.run a w = (.ok x, w') ∧ (Action.run (f x) w').1 = .ok y := by
  cases hr : Action.run a w with
  | mk result w' =>
    cases result with
    | ok x => exact ⟨x, w', rfl, by rwa [run_bind_ok hr] at h⟩
    | error e =>
      rw [run_bind_error hr] at h
      cases h

theorem run_map (f : α → β) (a : Action α) (w : World) :
    Action.run (f <$> a) w = ((Action.run a w).1.map f, (Action.run a w).2) := by
  refine (Program.run_bind _ _ w).trans ?_
  change _ = ((Program.run a w).1.map f, (Program.run a w).2)
  generalize Program.run a w = r
  rcases r with ⟨_ | _, _⟩ <;> rfl

theorem run_tryCatch (a : Action α) (handle : KeyringError → Action α) (w : World) :
    Action.run (tryCatch a handle) w =
      match Action.run a w with
      | (.ok x, w') => (.ok x, w')
      | (.error e, w') => Action.run (handle e) w' := by
  refine (Program.run_bind _ _ w).trans ?_
  change _ = match Program.run a w with
    | (.ok x, w') => (Except.ok x, w')
    | (.error e, w') => Action.run (handle e) w'
  generalize Program.run a w = r
  rcases r with ⟨_ | _, _⟩ <;> rfl

theorem run_tryCatch_ok {a : Action α} {handle : KeyringError → Action α} {w w' : World} {x : α}
    (h : Action.run a w = (.ok x, w')) : Action.run (tryCatch a handle) w = (.ok x, w') := by
  rw [run_tryCatch, h]

theorem run_tryCatch_error {a : Action α} {handle : KeyringError → Action α} {w w' : World}
    {e : KeyringError} (h : Action.run a w = (.error e, w')) :
    Action.run (tryCatch a handle) w = Action.run (handle e) w' := by
  rw [run_tryCatch, h]

@[simp] theorem run_perform (p : Program α) (w : World) :
    Action.run (perform p) w = (.ok (p.run w).1, (p.run w).2) := Program.run_bind _ _ w

@[simp] theorem run_orFail {ε : Type} (p : Program (Except ε α)) (wrap : ε → KeyringError)
    (w : World) :
    Action.run (orFail p wrap) w = ((p.run w).1.mapError wrap, (p.run w).2) :=
  Program.run_bind _ _ w

end Action

end VaultRing
