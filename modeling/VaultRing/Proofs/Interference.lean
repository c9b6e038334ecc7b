import VaultRing.Proofs.ProgramRun

/-!
Programs that run side by side. Each request is answered at once, and between two requests of one
program the others may go on. What a program makes of that is told by what the others may do to the
world and what it does itself; programs that allow each other what they do can be put together.
-/
namespace VaultRing

variable {α β : Type}

def Program.step : Program α → World → Program α × World
  | .done a, w => (.done a, w)
  | .ask r next, w => (next (w.answer r).1, (w.answer r).2)

/-- The number of the program that goes on, and what the clock shows then. -/
structure Slice where
  program : Nat
  clock : Timestamp

def World.at (w : World) (now : Timestamp) : World := { w with clock := now }

def runSlices : List Slice → List (Program α) → World → List (Program α) × World
  | [], ps, w => (ps, w)
  | s :: slices, ps, w =>
    match ps[s.program]? with
    | none => runSlices slices ps (w.at s.clock)
    | some p =>
      runSlices slices (ps.set s.program (p.step (w.at s.clock)).1) (p.step (w.at s.clock)).2

/-- What may happen around a program. -/
structure Interference where
  others : World → World → Prop
  own : World → World → Prop
  refl : ∀ w, others w w
  trans : ∀ {w₁ w₂ w₃}, others w₁ w₂ → others w₂ w₃ → others w₁ w₃

/-- From `w` on, each request of the program does what it may do, and when the program is done
`post` holds, and holds on. -/
def Program.Withstands (i : Interference) (post : α → World → Prop) : Program α → World → Prop
  | .done a, w => ∀ w', i.others w w' → post a w'
  | .ask r next, w => ∀ w', i.others w w' →
    i.own w' (w'.answer r).2 ∧ (next (w'.answer r).1).Withstands i post (w'.answer r).2

def Program.Single (p : Program α) : Prop :=
  ∃ r next, p = .ask r next ∧ ∀ answer, ∃ a, next answer = .done a

namespace Program.Withstands

variable {i : Interference} {post post' : α → World → Prop} {p : Program α} {w w' : World}

theorem of_others (h : p.Withstands i post w) (ho : i.others w w') : p.Withstands i post w' := by
  cases p with
  | done a => exact fun w'' h' => h w'' (i.trans ho h')
  | ask r next => exact fun w'' h' => h w'' (i.trans ho h')

theorem result {a : α} (h : (Program.done a).Withstands i post w) : post a w := h w (i.refl w)

theorem mono (h : p.Withstands i post w) (hpost : ∀ a w, post a w → post' a w) :
    p.Withstands i post' w := by
  induction p generalizing w with
  | done a => exact fun w' ho => hpost a w' (h w' ho)
  | ask r next ih => exact fun w' ho => ⟨(h w' ho).1, ih _ (h w' ho).2⟩

/-- What others do afterwards makes no difference. -/
theorem stable (h : p.Withstands i post w) :
    p.Withstands i (fun a w => ∀ w', i.others w w' → post a w') w := by
  induction p generalizing w with
  | done a => exact fun w' ho w'' ho' => h w'' (i.trans ho ho')
  | ask r next ih => exact fun w' ho => ⟨(h w' ho).1, ih _ (h w' ho).2⟩

theorem bind {f : α → Program β} {post : β → World → Prop}
    (h : p.Withstands i (fun a w => (f a).Withstands i post w) w) :
    (p.bind f).Withstands i post w := by
  induction p generalizing w with
  | done a => exact h.result
  | ask r next ih => exact fun w' ho => ⟨(h w' ho).1, ih _ (h w' ho).2⟩

theorem step (h : p.Withstands i post w) :
    (p.step w).1.Withstands i post (p.step w).2 ∧ (i.own w (p.step w).2 ∨ (p.step w).2 = w) := by
  cases p with
  | done a => exact ⟨h, .inr rfl⟩
  | ask r next => exact ⟨(h w (i.refl w)).2, .inl (h w (i.refl w)).1⟩

theorem of_single (hp : p.Single)
    (h : ∀ w₁, i.others w w₁ → i.own w₁ (p.run w₁).2 ∧
      ∀ w₂, i.others (p.run w₁).2 w₂ → post (p.run w₁).1 w₂) : p.Withstands i post w := by
  obtain ⟨r, next, rfl, hnext⟩ := hp
  intro w₁ ho
  obtain ⟨a, ha⟩ := hnext (w₁.answer r).1
  have hrun : (Program.ask r next).run w₁ = (a, (w₁.answer r).2) := by
    change (next (w₁.answer r).1).run (w₁.answer r).2 = _
    rw [ha]
    rfl
  have h₁ := h w₁ ho
  rw [hrun] at h₁
  rw [ha]
  exact h₁

end Program.Withstands

section Together

/-- Programs that allow each other what they do, and what all of them may do together. -/
structure Compatible {ι : Type} (jobs : List ι) (rules : ι → Interference)
    (total : World → World → Prop) : Prop where
  others : ∀ {m n : Nat} {a b : ι}, m ≠ n → jobs[m]? = some a → jobs[n]? = some b →
    ∀ {w w'}, (rules a).own w w' → (rules b).others w w'
  clock : ∀ (a : ι) (w : World) (now : Timestamp), (rules a).others w (w.at now)
  refl : ∀ w, total w w
  trans : ∀ {w₁ w₂ w₃}, total w₁ w₂ → total w₂ w₃ → total w₁ w₃
  totalClock : ∀ (w : World) (now : Timestamp), total w (w.at now)
  totalOwn : ∀ a ∈ jobs, ∀ {w w'}, (rules a).own w w' → total w w'

variable {ι : Type} {jobs : List ι} {rules : ι → Interference} {post : ι → α → World → Prop}
  {total : World → World → Prop}

/-- Each program does as it would do by itself among such others. -/
structure Underway (rules : ι → Interference) (post : ι → α → World → Prop) (jobs : List ι)
    (ps : List (Program α)) (w : World) : Prop where
  length : ps.length = jobs.length
  withstands : ∀ {n : Nat} {a : ι} {p : Program α}, jobs[n]? = some a → ps[n]? = some p →
    p.Withstands (rules a) (post a) w

theorem Underway.at_clock {ps : List (Program α)} {w : World} (hc : Compatible jobs rules total)
    (h : Underway rules post jobs ps w) (now : Timestamp) :
    Underway rules post jobs ps (w.at now) :=
  ⟨h.length, fun ha hp => (h.withstands ha hp).of_others (hc.clock _ w now)⟩

theorem Underway.step {ps : List (Program α)} {w : World} (hc : Compatible jobs rules total)
    (h : Underway rules post jobs ps w) {m : Nat} {p : Program α} (hp : ps[m]? = some p) :
    Underway rules post jobs (ps.set m (p.step w).1) (p.step w).2 ∧ total w (p.step w).2 := by
  obtain ⟨hm, -⟩ := List.getElem?_eq_some_iff.mp hp
  obtain ⟨a, ha⟩ : ∃ a, jobs[m]? = some a :=
    ⟨_, List.getElem?_eq_getElem (h.length ▸ hm)⟩
  obtain ⟨hnext, hown⟩ := (h.withstands ha hp).step
  refine ⟨⟨by rw [List.length_set, h.length], fun {n b q} hb hq => ?_⟩, ?_⟩
  · by_cases hn : m = n
    · subst hn
      rw [List.getElem?_set_self hm] at hq
      obtain rfl := Option.some.inj hq
      obtain rfl := Option.some.inj (ha.symm.trans hb)
      exact hnext
    · rw [List.getElem?_set_ne hn] at hq
      rcases hown with hown | hsame
      · exact (h.withstands hb hq).of_others (hc.others hn ha hb hown)
      · rw [hsame]
        exact h.withstands hb hq
  · rcases hown with hown | hsame
    · exact hc.totalOwn a (List.mem_of_getElem? ha) hown
    · rw [hsame]
      exact hc.refl w

theorem runSlices_underway (hc : Compatible jobs rules total) (slices : List Slice)
    {ps : List (Program α)} {w : World} (h : Underway rules post jobs ps w) :
    Underway rules post jobs (runSlices slices ps w).1 (runSlices slices ps w).2 ∧
      total w (runSlices slices ps w).2 := by
  induction slices generalizing ps w with
  | nil => exact ⟨h, hc.refl w⟩
  | cons s slices ih =>
    have hclock := h.at_clock hc s.clock
    have htotal := hc.totalClock w s.clock
    unfold runSlices
    split
    · obtain ⟨hrest, hend⟩ := ih hclock
      exact ⟨hrest, hc.trans htotal hend⟩
    · rename_i p hp
      obtain ⟨hstep, hown⟩ := hclock.step hc hp
      obtain ⟨hrest, hend⟩ := ih hstep
      exact ⟨hrest, hc.trans htotal (hc.trans hown hend)⟩

end Together

def Action.Withstands (i : Interference) (post : Except KeyringError α → World → Prop)
    (a : Action α) (w : World) : Prop :=
  Program.Withstands i post (ExceptT.run a) w

def Action.Single (a : Action α) : Prop := Program.Single (ExceptT.run a)

namespace Action.Withstands

variable {i : Interference} {a : Action α} {w : World}

theorem mono {post post' : Except KeyringError α → World → Prop} (h : a.Withstands i post w)
    (hpost : ∀ r w, post r w → post' r w) : a.Withstands i post' w :=
  Program.Withstands.mono h hpost

theorem ofExcept {r : Except KeyringError α} {post : Except KeyringError α → World → Prop}
    (h : ∀ w', i.others w w' → post r w') : Action.Withstands i post (Action.ofExcept r) w := h

theorem pure {x : α} {post : Except KeyringError α → World → Prop}
    (h : ∀ w', i.others w w' → post (.ok x) w') :
    Action.Withstands i post (Pure.pure x : Action α) w := h

theorem throw {e : KeyringError} {post : Except KeyringError α → World → Prop}
    (h : ∀ w', i.others w w' → post (.error e) w') :
    Action.Withstands i post (MonadExcept.throw e : Action α) w := h

/-- A failure is the result; else it goes on. -/
theorem bind {f : α → Action β} {post : Except KeyringError β → World → Prop}
    (h : a.Withstands i (fun r w => match r with
      | .ok x => (f x).Withstands i post w
      | .error e => post (.error e) w) w) :
    Action.Withstands i post (a >>= f) w := by
  refine Program.Withstands.bind (Program.Withstands.stable h |>.mono fun r w hr => ?_)
  cases r with
  | ok x => exact hr w (i.refl w)
  | error e => exact hr

theorem tryCatch {handle : KeyringError → Action α} {post : Except KeyringError α → World → Prop}
    (h : a.Withstands i (fun r w => match r with
      | .ok x => post (.ok x) w
      | .error e => (handle e).Withstands i post w) w) :
    Action.Withstands i post (MonadExcept.tryCatch a handle) w := by
  refine Program.Withstands.bind (Program.Withstands.stable h |>.mono fun r w hr => ?_)
  cases r with
  | ok x => exact hr
  | error e => exact hr w (i.refl w)

theorem map {f : α → β} {post : Except KeyringError β → World → Prop}
    (h : a.Withstands i (fun r w => post (r.map f) w) w) :
    Action.Withstands i post (f <$> a) w := by
  refine Program.Withstands.bind (Program.Withstands.stable h |>.mono fun r w hr => ?_)
  cases r with
  | ok x => exact hr
  | error e => exact hr

theorem perform {p : Program α} {post : Except KeyringError α → World → Prop}
    (h : p.Withstands i (fun x w => post (.ok x) w) w) :
    Action.Withstands i post (Action.perform p) w := Program.Withstands.bind h.stable

theorem of_single {post : Except KeyringError α → World → Prop} (ha : a.Single)
    (h : ∀ w₁, i.others w w₁ → i.own w₁ (Action.run a w₁).2 ∧
      ∀ w₂, i.others (Action.run a w₁).2 w₂ → post (Action.run a w₁).1 w₂) :
    a.Withstands i post w := Program.Withstands.of_single ha h

end Action.Withstands

end VaultRing
