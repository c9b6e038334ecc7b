import VaultRing.Proofs.RetimedKeyrings

namespace VaultRing

variable {T : Timestamp → Timestamp → Prop}

/-- From `w` on, the first call is a listing that comes too late; after it nothing is done but to
log. -/
def Action.Expires {α : Type} (a : Action α) (w : World) (e : KeyringError) : Prop :=
  ∃ logger, Action.run a w = (.error e, { w with vault := w.vault.counted .list, logger })

namespace Action.Expires

variable {α β : Type} {a : Action α} {w : World} {e : KeyringError}

theorem bind (h : a.Expires w e) (f : α → Action β) : Action.Expires (a >>= f) w e := by
  obtain ⟨logger, hr⟩ := h
  exact ⟨logger, run_bind_error hr⟩

theorem map (h : a.Expires w e) (f : α → β) : Action.Expires (f <$> a) w e := by
  obtain ⟨logger, hr⟩ := h
  exact ⟨logger, by rw [run_map, hr]; rfl⟩

theorem log_bind {level : LogLevel} {source : LogSource} {message : String} {f : Unit → Action α}
    (h : ∀ logger, (f ()).Expires { w with logger } e) :
    Action.Expires (Action.log level source message >>= f) w e := by
  obtain ⟨logger, hr⟩ := h _
  exact ⟨logger, (run_bind_ok (log_run ..)).trans hr⟩

/-- Handlers at most log such an error. -/
theorem tryCatch {handle : KeyringError → Action α} (h : a.Expires w e)
    (hh : ∀ w', ∃ logger, Action.run (handle e) w' = (.error e, { w' with logger })) :
    Action.Expires (MonadExcept.tryCatch a handle) w e := by
  obtain ⟨logger, hr⟩ := h
  obtain ⟨logger', hr'⟩ := hh { w with vault := w.vault.counted .list, logger }
  exact ⟨logger', (run_tryCatch_error hr).trans hr'⟩

end Action.Expires

def Scope.listingTimeout (scope : Scope) (limit : Duration) : KeyringError :=
  .transport (Context.list scope.vaultId) (.timeout limit)

namespace Transport

theorem isLate_of_not_keeps {w : World} {limit : Option Duration}
    (h : ¬ Keeps limit w.vault.delay) :
    ∃ l, limit = some l ∧ w.vault.isLate (some l) = true := by
  unfold Keeps at h
  push Not at h
  obtain ⟨l, rfl, ms, hms, hlt⟩ := h
  rw [Option.mem_def] at hms
  exact ⟨l, rfl, by simpa [MemoryVault.isLate, hms] using hlt⟩

variable {scope : Scope} {limit : Duration} {w : World}

theorem listItems_expires (h : w.vault.isLate (some limit) = true) :
    (listItems limit scope).Expires w (scope.listingTimeout limit) := by
  refine Action.Expires.bind ⟨w.logger, ?_⟩ _
  refine (Action.run_orFail _ _ w).trans ?_
  have hlate : w.vault.answerItems w.clock (some limit) (.list scope.vaultId .activeOnly) =
      (.error (.timeout limit), w.vault.counted .list) := by
    simp [MemoryVault.answerItems, MemoryVault.enter, h, MemoryVault.counted, ItemsCall.kind]
  change ((w.vault.answerItems _ _ (.list scope.vaultId .activeOnly)).1.mapError _,
    { w with vault := (w.vault.answerItems _ _ (.list scope.vaultId .activeOnly)).2 }) = _
  rw [hlate]
  rfl

theorem managedItems_expires {t : Transport} (hc : t.HasClient w.filled)
    (hlimit : t.limit? = some limit) (h : w.vault.isLate (some limit) = true)
    (title : Option String) :
    (t.managedItems scope title).Expires w (scope.listingTimeout limit) := by
  cases t with
  | standard backend l =>
    cases hlimit
    exact listItems_expires h
  | lazy slot backend auth l =>
    cases hlimit
    obtain ⟨logger, hr⟩ : (listItems limit scope).Expires w _ := listItems_expires h
    exact ⟨logger, (Action.run_bind_ok (ensureClient_run_filled hc backend auth)).trans hr⟩
  | connect client => cases hlimit

end Transport

namespace Keyring

variable {k : Keyring} {w : World} {limit : Duration}

theorem find_expires (hc : k.transport.HasClient w.filled)
    (hlimit : k.transport.limit? = some limit) (h : w.vault.isLate (some limit) = true)
    (key : String) : (k.find key).Expires w (k.scope.listingTimeout limit) :=
  (Transport.managedItems_expires hc hlimit h _).bind _

theorem get_expires (hc : k.transport.HasClient w.filled) (hlimit : k.transport.limit? = some limit)
    (h : w.vault.isLate (some limit) = true) (key : String) :
    (k.get key).Expires w (k.scope.listingTimeout limit) :=
  .log_bind fun logger => (find_expires (w := { w with logger }) hc hlimit h key).bind _

/-- By the lookup that each operation begins with. -/
theorem perform_expires (hc : k.transport.HasClient w.filled)
    (hlimit : k.transport.limit? = some limit) (h : w.vault.isLate (some limit) = true)
    (operation : Operation) :
    (k.perform operation).Expires w (k.scope.listingTimeout limit) := by
  cases operation with
  | get key => exact (get_expires hc hlimit h key).map _
  | has key =>
    exact (((get_expires hc hlimit h key).bind _).tryCatch fun w' => ⟨w'.logger, rfl⟩).map _
  | getMetadata key =>
    exact (((find_expires hc hlimit h key).bind _).tryCatch fun w' => ⟨w'.logger, rfl⟩).map _
  | set item =>
    have hfind : (k.find? item.key).Expires w (k.scope.listingTimeout limit) :=
      ((find_expires hc hlimit h item.key).map _).tryCatch fun w' =>
        ⟨_, Action.run_bind_ok (Action.log_run ..)⟩
    exact (hfind.bind _).map _
  | remove key => exact ((find_expires hc hlimit h key).bind _).map _
  | keys => exact ((Transport.managedItems_expires hc hlimit h none).bind _).map _

end Keyring

/-- The same turn at a related time, without a delay first and then with any. Neither is injected a
failure. -/
structure Turn.SameButDelay (T : Timestamp → Timestamp → Prop) (t t' : Turn) : Prop where
  keyring : t'.keyring = t.keyring
  operation : t'.operation = t.operation
  clock : T t.conditions.clock t'.conditions.clock
  healthy : t.conditions.failure = none
  healthy' : t'.conditions.failure = none
  undelayed : t.conditions.delay = none

def Turn.InTime (t : Turn) : Prop := Keeps t.keyring.transport.limit? t.conditions.delay

def Turn.TimesOut (t : Turn) (answer : Except KeyringError Answer) : Prop :=
  ∃ limit, t.keyring.transport.limit? = some limit ∧
    answer = .error (t.keyring.scope.listingTimeout limit)

section Runs

/-- Two worlds between turns: the same is stored but for times, and the filled slots are `slots`. -/
structure World.StoresBeside (T : Timestamp → Timestamp → Prop) (slots : List Slot)
    (w w' : World) : Prop where
  items : List.Forall₂ (VaultItem.Retimed T) w.vault.items w'.vault.items
  drawn : w.vault.drawn = w'.vault.drawn
  calls : w.vault.calls = w'.vault.calls
  filled : w.filled = slots
  filled' : w'.filled = slots

theorem World.Beside.stores {d d' : Option Nat} {slots : List Slot} {w w' : World}
    (h : w.Beside T d d' slots w') : w.StoresBeside T slots w' :=
  ⟨h.vault.items, h.vault.drawn, h.vault.calls, h.filled, h.filled'⟩

theorem World.StoresBeside.refl (w : World) : w.StoresBeside T w.filled w :=
  ⟨List.forall₂_same.mpr fun i _ => .refl i, rfl, rfl, rfl, rfl⟩

theorem Turn.run_beside {t t' : Turn} (h : t.SameButDelay T t') (ht : t'.InTime)
    {slots : List Slot} (hc : t.keyring.transport.HasClient slots) {w w' : World}
    (hw : w.StoresBeside T slots w') :
    AnswersAlike T (t.run w).1 (t'.run w').1 ∧ (t.run w).2.StoresBeside T slots (t'.run w').2 := by
  obtain ⟨conditions, keyring, operation⟩ := t
  obtain ⟨conditions', keyring', operation'⟩ := t'
  obtain ⟨rfl, rfl, hclock, hf, hf', hd⟩ := h
  have hnow : (w.under conditions).Beside T conditions.delay conditions'.delay slots
      (w'.under conditions') :=
    ⟨⟨hw.items, hw.drawn, hw.calls, hf, hf', rfl, rfl⟩, hclock, hw.filled, hw.filled'⟩
  have hl : Keeps keyring'.transport.limit? conditions.delay := by
    intro l _ ms hms
    rw [show conditions.delay = none from hd] at hms
    cases hms
  obtain ⟨hanswer, hafter⟩ := Keyring.perform_beside hc hl ht operation' _ _ hnow
  exact ⟨answersAlike_of_retimed hanswer, hafter.stores⟩

theorem runTurns_beside {slots : List Slot} {turns turns' : List Turn}
    (h : List.Forall₂ (Turn.SameButDelay T) turns turns') (ht : ∀ t ∈ turns', t.InTime)
    (hc : ∀ t ∈ turns, t.keyring.transport.HasClient slots) {w w' : World}
    (hw : w.StoresBeside T slots w') :
    List.Forall₂ (AnswersAlike T) (runTurns turns w).1 (runTurns turns' w').1 ∧
      (runTurns turns w).2.StoresBeside T slots (runTurns turns' w').2 := by
  induction h generalizing w w' with
  | nil => exact ⟨.nil, hw⟩
  | @cons t t' turns turns' hsame _ ih =>
    obtain ⟨htime, htimes⟩ := List.forall_mem_cons.mp ht
    obtain ⟨hclient, hclients⟩ := List.forall_mem_cons.mp hc
    obtain ⟨hanswer, hafter⟩ := Turn.run_beside hsame htime hclient hw
    obtain ⟨hanswers, hend⟩ := ih htimes hclients hafter
    exact ⟨.cons hanswer hanswers, hend⟩

theorem Turn.run_expires {t : Turn} (ht : ¬ t.InTime) {w : World}
    (hc : t.keyring.transport.HasClient w.filled) :
    t.TimesOut (t.run w).1 ∧ (t.run w).2.vault.items = w.vault.items ∧
      (t.run w).2.vault.drawn = w.vault.drawn ∧
      (t.run w).2.vault.calls = w.vault.calls.count .list ∧ (t.run w).2.filled = w.filled := by
  obtain ⟨limit, hlimit, hlate⟩ :=
    Transport.isLate_of_not_keeps (w := w.under t.conditions) ht
  obtain ⟨logger, hrun⟩ :=
    Keyring.perform_expires (w := w.under t.conditions) hc hlimit hlate t.operation
  rw [Turn.run, hrun]
  exact ⟨⟨limit, hlimit, rfl⟩, rfl, rfl, rfl, rfl⟩

theorem runTurns_expires {turns : List Turn} (ht : ∀ t ∈ turns, ¬ t.InTime) {w : World}
    (hc : ∀ t ∈ turns, t.keyring.transport.HasClient w.filled) :
    List.Forall₂ Turn.TimesOut turns (runTurns turns w).1 ∧
      (runTurns turns w).2.vault.items = w.vault.items ∧
      (runTurns turns w).2.vault.drawn = w.vault.drawn ∧
      (runTurns turns w).2.vault.calls =
        { w.vault.calls with list := w.vault.calls.list + turns.length } := by
  induction turns generalizing w with
  | nil => exact ⟨.nil, rfl, rfl, rfl⟩
  | cons t turns ih =>
    obtain ⟨hlate, hlates⟩ := List.forall_mem_cons.mp ht
    obtain ⟨hclient, hclients⟩ := List.forall_mem_cons.mp hc
    obtain ⟨hanswer, hitems, hdrawn, hcalls, hfilled⟩ := t.run_expires hlate hclient
    obtain ⟨hanswers, hitems', hdrawn', hcalls'⟩ :=
      ih (w := (t.run w).2) hlates (hfilled ▸ hclients)
    refine ⟨.cons hanswer hanswers, hitems'.trans hitems, hdrawn'.trans hdrawn, hcalls'.trans ?_⟩
    rw [hcalls, List.length_cons, CallCounts.count, Nat.add_comm turns.length, ← Nat.add_assoc]

theorem hasClient_of_sameButDelay {turns turns' : List Turn}
    (h : List.Forall₂ (Turn.SameButDelay T) turns turns') {slots : List Slot}
    (hc : ∀ t ∈ turns, t.keyring.transport.HasClient slots) :
    ∀ t ∈ turns', t.keyring.transport.HasClient slots := by
  induction h with
  | nil => exact hc
  | cons hsame _ ih =>
    obtain ⟨hclient, hclients⟩ := List.forall_mem_cons.mp hc
    exact List.forall_mem_cons.mpr ⟨hsame.keyring ▸ hclient, ih hclients⟩

/-- Runs of keyrings that have their clients, against a vault without failures. If no call is late,
a run with delays gives the answers, items and calls of the one without, but for the times that
clocks have shown; over a gateway none ever is. If the calls are late, each operation answers that
its listing timed out, after that one call, and what is stored stays as it was. -/
theorem deadlines_bound_each_call (T : Timestamp → Timestamp → Prop) (w : World)
    (turns turns' : List Turn) (hc : ∀ t ∈ turns, t.keyring.transport.HasClient w.filled)
    (hsame : List.Forall₂ (Turn.SameButDelay T) turns turns') :
    ((∀ t ∈ turns', t.InTime) →
      List.Forall₂ (AnswersAlike T) (runTurns turns w).1 (runTurns turns' w).1 ∧
      List.Forall₂ (VaultItem.Retimed T) (runTurns turns w).2.vault.items
        (runTurns turns' w).2.vault.items ∧
      (runTurns turns w).2.vault.drawn = (runTurns turns' w).2.vault.drawn ∧
      (runTurns turns w).2.vault.calls = (runTurns turns' w).2.vault.calls) ∧
    ((∀ t ∈ turns', ¬ t.InTime) →
      List.Forall₂ Turn.TimesOut turns' (runTurns turns' w).1 ∧
      (runTurns turns' w).2.vault.items = w.vault.items ∧
      (runTurns turns' w).2.vault.drawn = w.vault.drawn ∧
      (runTurns turns' w).2.vault.calls =
        { w.vault.calls with list := w.vault.calls.list + turns'.length }) ∧
    ∀ t ∈ turns', ∀ client, t.keyring.transport = .connect client → t.InTime := by
  refine ⟨fun ht => ?_, fun ht => ?_, fun t _ client ht => ?_⟩
  · obtain ⟨hanswers, hw⟩ := runTurns_beside hsame ht hc (.refl w)
    exact ⟨hanswers, hw.items, hw.drawn, hw.calls⟩
  · exact runTurns_expires ht (hasClient_of_sameButDelay hsame hc)
  · rw [Turn.InTime, ht]
    exact fun l hl => absurd hl (Option.not_mem_none l)

end Runs

section Tight

/-- One nanosecond, which counts as a millisecond. -/
def tightLimit : Duration := ⟨0, ⟨1, by decide⟩⟩

def tightWorld : World := { World.ofVault MemoryVault.sample Timestamp.noon with filled := [0] }

def hourLater : Timestamp := { Timestamp.noon with hour := ⟨13, by decide⟩ }

def tightTurns (clock : Timestamp) (delay : Option Nat) : List Turn :=
  let conditions : Conditions := { tightWorld.conditions with clock, delay }
  let standard : Keyring := ⟨Scope.sample, .standard .standard tightLimit, .propagate⟩
  let lazy : Keyring :=
    ⟨Scope.sample, .lazy 0 .desktop (.desktop "account") tightLimit, .zeroWhenMissing⟩
  [⟨conditions, standard, .getMetadata "b"⟩, ⟨conditions, lazy, .set ⟨"a", [3]⟩⟩,
    ⟨conditions, standard, .set ⟨"c", [4]⟩⟩, ⟨conditions, lazy, .getMetadata "c"⟩,
    ⟨conditions, standard, .remove "b"⟩, ⟨conditions, lazy, .keys⟩]

theorem tightTurns_same (delay : Option Nat) :
    List.Forall₂ (Turn.SameButDelay fun now now' => now = Timestamp.noon ∧ now' = hourLater)
      (tightTurns Timestamp.noon none) (tightTurns hourLater delay) := by
  simp only [tightTurns, List.forall₂_cons, List.Forall₂.nil, and_true]
  exact ⟨⟨rfl, rfl, ⟨rfl, rfl⟩, rfl, rfl, rfl⟩, ⟨rfl, rfl, ⟨rfl, rfl⟩, rfl, rfl, rfl⟩,
    ⟨rfl, rfl, ⟨rfl, rfl⟩, rfl, rfl, rfl⟩, ⟨rfl, rfl, ⟨rfl, rfl⟩, rfl, rfl, rfl⟩,
    ⟨rfl, rfl, ⟨rfl, rfl⟩, rfl, rfl, rfl⟩, ⟨rfl, rfl, ⟨rfl, rfl⟩, rfl, rfl, rfl⟩⟩

theorem tightTurns_limit {clock : Timestamp} {delay : Option Nat} :
    ∀ t ∈ tightTurns clock delay,
      t.keyring.transport.HasClient [0] ∧ t.keyring.transport.limit? = some tightLimit ∧
        t.conditions.delay = delay := by
  simp [tightTurns, Transport.HasClient, Transport.limit?]

/-- A millisecond for each of more than twenty calls is in time, two for the first are not. -/
theorem tight_limit_bounds_each_call :
    (∀ t ∈ tightTurns Timestamp.noon none, t.keyring.transport.HasClient tightWorld.filled) ∧
      (∀ t ∈ tightTurns hourLater (some 1), t.InTime) ∧
      (∀ t ∈ tightTurns hourLater (some 2), ¬ t.InTime) ∧
      (runTurns (tightTurns Timestamp.noon none) tightWorld).1 =
        [.ok (.metadata ⟨some Timestamp.noon⟩), .ok .done, .ok .done,
          .ok (.metadata ⟨some Timestamp.noon⟩), .ok .done, .ok (.keys ["a", "c"])] ∧
      List.Forall₂ (AnswersAlike fun now now' => now = Timestamp.noon ∧ now' = hourLater)
        (runTurns (tightTurns Timestamp.noon none) tightWorld).1
        (runTurns (tightTurns hourLater (some 1)) tightWorld).1 ∧
      (runTurns (tightTurns Timestamp.noon none) tightWorld).2.vault.calls =
        (runTurns (tightTurns hourLater (some 1)) tightWorld).2.vault.calls ∧
      List.Forall₂ Turn.TimesOut (tightTurns hourLater (some 2))
        (runTurns (tightTurns hourLater (some 2)) tightWorld).1 ∧
      (runTurns (tightTurns hourLater (some 2)) tightWorld).2.vault.calls =
        { CallCounts.zero with list := 6 } := by
  have hclient : ∀ t ∈ tightTurns Timestamp.noon none,
      t.keyring.transport.HasClient tightWorld.filled := fun t ht => (tightTurns_limit t ht).1
  have hintime : ∀ t ∈ tightTurns hourLater (some 1), t.InTime := by
    intro t ht
    obtain ⟨-, hlimit, hdelay⟩ := tightTurns_limit t ht
    simp [Turn.InTime, Keeps, hlimit, hdelay, show tightLimit.milliseconds = 1 by decide]
  have hlate : ∀ t ∈ tightTurns hourLater (some 2), ¬ t.InTime := by
    intro t ht
    obtain ⟨-, hlimit, hdelay⟩ := tightTurns_limit t ht
    simp [Turn.InTime, Keeps, hlimit, hdelay, show tightLimit.milliseconds = 1 by decide]
  obtain ⟨hanswers, -, -, hcalls⟩ :=
    (deadlines_bound_each_call _ tightWorld _ _ hclient (tightTurns_same (some 1))).1 hintime
  obtain ⟨htimeouts, -, -, hlists⟩ :=
    (deadlines_bound_each_call _ tightWorld _ _ hclient (tightTurns_same (some 2))).2.1 hlate
  exact ⟨hclient, hintime, hlate, by decide, hanswers, hcalls, htimeouts, hlists⟩

end Tight

end VaultRing
