import VaultRing.Proofs.KeyringSession
import VaultRing.Proofs.LazyUse

namespace VaultRing

inductive Use where
  | prepare
  | operate (scope : Scope) (policy : MetadataPolicy) (operation : Operation)

/-- A use, and what has come to pass since the one before: anything at all, so long as it does not
touch the slot. -/
structure Moment (slot : Slot) where
  outside : World → World
  slotKept : ∀ w, slot ∈ (outside w).filled ↔ slot ∈ w.filled
  ask : String → Except PromptFailure String
  use : Use

namespace LazyClient

def answeredBy (c : LazyClient) (ask : String → Except PromptFailure String) : LazyClient :=
  { c with
    auth :=
      match c.auth with
      | .desktop account => .desktop account
      | .serviceAccount tokens =>
        .serviceAccount { tokens with prompt := tokens.prompt.map fun _ => ⟨ask⟩ } }

def lazily (c : LazyClient) : Use → Action Answer
  | .prepare => Transport.ensureClient c.slot c.backend c.auth >>= fun _ => pure .done
  | .operate scope policy operation => Keyring.perform ⟨scope, c.transport, policy⟩ operation

def directly (c : LazyClient) : Use → Action Answer
  | .prepare => pure .done
  | .operate scope policy operation => Keyring.perform ⟨scope, c.direct, policy⟩ operation

def usedAt (c : LazyClient) (m : Moment c.slot) (w : World) : Except KeyringError Answer × World :=
  Action.run ((c.answeredBy m.ask).lazily m.use) (m.outside w)

def dealingsAt (c : LazyClient) (m : Moment c.slot) (w : World) : List Asked :=
  ((c.answeredBy m.ask).lazily m.use).dealings (m.outside w)

def after (c : LazyClient) : List (Moment c.slot) → World → World
  | [], w => w
  | m :: moments, w => c.after moments (c.usedAt m w).2

def told (c : LazyClient) : List (Moment c.slot) → World → List Asked
  | [], _ => []
  | m :: moments, w => c.dealingsAt m w ++ c.told moments (c.usedAt m w).2

end LazyClient

def Asked.connected (x : Asked) : Bool :=
  match x with
  | ⟨.connect .., result⟩ =>
    match result with
    | .ok _ => true
    | .error _ => false
  | _ => false

namespace LazyClient

variable (c : LazyClient) (use : Use) (w : World)

/-- What follows on the client is what follows without it having been built: calls of the vault and
looks at the clock. -/
structure Serves : Prop where
  answer : (Action.run (c.lazily use) w).1 = (Action.run (c.directly use) w).1
  vault : (Action.run (c.lazily use) w).2.vault = (Action.run (c.directly use) w).2.vault
  filled : c.slot ∈ (Action.run (c.lazily use) w).2.filled
  calls : ∀ x ∈ (c.directly use).dealings w,
    x.1 = .now ∨ ∃ call, x.1 = .items (some c.limit) call

structure Refuses (e : KeyringError) : Prop where
  answer : (Action.run (c.lazily use) w).1 = .error e
  vault : (Action.run (c.lazily use) w).2.vault = w.vault
  empty : c.slot ∉ (Action.run (c.lazily use) w).2.filled

def Attempts : Prop :=
  match c.auth.resolved w.environment with
  | .error e => c.Refuses use w e ∧ (c.lazily use).dealings w = c.auth.sought w.environment
  | .ok a =>
    match w.connectorFailure with
    | some message =>
      c.Refuses use w (.clientInit c.backend (.client message)) ∧
        (c.lazily use).dealings w =
          c.auth.sought w.environment ++ [.connecting a (.error (.client message))]
    | none =>
      c.Serves use w ∧
        (c.lazily use).dealings w =
          c.auth.sought w.environment ++ [.connecting a (.ok ()), .filling c.slot] ++
            (c.directly use).dealings w

theorem use_lazily : c.Lazily (c.lazily use) (c.directly use) := by
  cases use with
  | prepare => exact .ensure (.pure Answer.done)
  | operate scope policy operation => exact c.perform_lazily scope policy operation

section Step

variable {c w}

theorem directly_calls (use : Use) (w : World) : ∀ x ∈ (c.directly use).dealings w,
    x.1 = .now ∨ ∃ call, x.1 = .items (some c.limit) call := by
  intro x hx
  obtain ⟨hasked, hidle⟩ := List.mem_filter.mp hx
  have hmay : c.direct.MayAsk x.1 := (c.use_lazily use).asks.of_mem_asked hasked
  obtain ⟨r, answer⟩ := x
  cases r with
  | items bound call =>
    obtain rfl : bound = some c.limit := hmay
    exact .inr ⟨call, rfl⟩
  | now => exact .inl rfl
  | log entry => cases hidle
  | _ => exact absurd hmay id

/-- With the client there, a use is what it is without the slot. -/
theorem serves_filled (use : Use) (h : c.slot ∈ w.filled) :
    c.Serves use w ∧ (c.lazily use).dealings w = (c.directly use).dealings w := by
  obtain ⟨hrun, hdealings⟩ := (c.use_lazily use).run w h
  refine ⟨⟨by rw [hrun], by rw [hrun], Program.filled_run h, directly_calls use w⟩, hdealings⟩

theorem refuses_of_fault (use : Use) {e : KeyringError} (h : c.transport.fault? w = some e)
    (hempty : c.slot ∉ w.filled) (hfill : ∀ x ∈ c.opening w, x.1 ≠ .fill c.slot) :
    c.Refuses use w e ∧ (c.lazily use).dealings w = c.opening w := by
  obtain ⟨⟨w', hr⟩, hdealings⟩ := (c.use_lazily use).refused w e h
  refine ⟨⟨by rw [hr], ?_, ?_⟩, hdealings⟩
  · exact Action.run_vault_of_dealings (hdealings ▸ c.opening_callsVault w)
  · rw [Action.mem_filled_run_iff, hdealings]
    rintro (hs | ⟨x, hx, he⟩)
    · exact hempty hs
    · exact hfill x hx he

theorem sought_ne_fill {x : Asked} (hx : x ∈ c.auth.sought w.environment) : x.1 ≠ .fill c.slot := by
  intro he
  have hasks := c.auth.sought_asks w x hx
  rw [he] at hasks
  exact hasks

theorem attempts_empty (use : Use) (h : c.slot ∉ w.filled) : c.Attempts use w := by
  unfold Attempts
  cases hr : c.auth.resolved w.environment with
  | error e =>
    have hfault : c.transport.fault? w = some e := by simp [Transport.fault?, transport, h, hr]
    have hopening : c.opening w = c.auth.sought w.environment := by simp [opening, hr]
    rw [← hopening]
    exact refuses_of_fault use hfault h fun x hx => sought_ne_fill (hopening ▸ hx)
  | ok a =>
    cases hm : w.connectorFailure with
    | some message =>
      have hfault : c.transport.fault? w = some (.clientInit c.backend (.client message)) := by
        simp [Transport.fault?, transport, h, hr, hm]
      have hopening : c.opening w =
          c.auth.sought w.environment ++ [.connecting a (.error (.client message))] := by
        simp only [opening, hr, hm]
      dsimp only
      rw [← hopening]
      refine refuses_of_fault use hfault h fun x hx => ?_
      rw [hopening, List.mem_append, List.mem_singleton] at hx
      rcases hx with hx | rfl
      · exact sought_ne_fill hx
      · exact fun he => by cases he
    | none =>
      have hfault : c.transport.fault? w = none := by
        simp [Transport.fault?, transport, h, hr, hm]
      have hopening : c.opening w =
          c.auth.sought w.environment ++ [.connecting a (.ok ()), .filling c.slot] := by
        simp only [opening, hr, hm]
      obtain ⟨hresult, hsame, hfilled, hdealings⟩ := (c.use_lazily use).built w h hfault
      dsimp only
      rw [← hopening]
      exact ⟨⟨hresult, hsame.vault, hfilled, directly_calls use w⟩, hdealings⟩

theorem countP_sought (c : LazyClient) (w : World) :
    (c.auth.sought w.environment).countP Asked.connected = 0 := by
  refine List.countP_eq_zero.mpr fun x hx => ?_
  have hasks := c.auth.sought_asks w x hx
  obtain ⟨r, answer⟩ := x
  cases r with
  | connect a => exact absurd hasks id
  | _ => exact Bool.false_ne_true

theorem countP_directly (c : LazyClient) (use : Use) (w : World) :
    ((c.directly use).dealings w).countP Asked.connected = 0 := by
  refine List.countP_eq_zero.mpr fun x hx => ?_
  obtain ⟨r, answer⟩ := x
  rcases directly_calls use w _ hx with hr | ⟨call, hr⟩
  · obtain rfl : r = .now := hr
    exact Bool.false_ne_true
  · obtain rfl : r = .items (some c.limit) call := hr
    exact Bool.false_ne_true

/-- A use makes an attempt that succeeds just when it leaves the slot filled and has not found it
so. -/
theorem countP_dealings (use : Use) (w : World) :
    ((c.lazily use).dealings w).countP Asked.connected =
      if c.slot ∈ w.filled then 0
      else if c.slot ∈ (Action.run (c.lazily use) w).2.filled then 1 else 0 := by
  by_cases hs : c.slot ∈ w.filled
  · rw [if_pos hs, (serves_filled use hs).2, countP_directly]
  rw [if_neg hs]
  have hattempts := attempts_empty use hs
  unfold Attempts at hattempts
  split at hattempts
  · obtain ⟨hrefuses, hdealings⟩ := hattempts
    rw [if_neg hrefuses.empty, hdealings, countP_sought]
  · split at hattempts
    · obtain ⟨hrefuses, hdealings⟩ := hattempts
      rw [if_neg hrefuses.empty, hdealings, List.countP_append, countP_sought]
      rfl
    · obtain ⟨hserves, hdealings⟩ := hattempts
      rw [if_pos hserves.filled, hdealings, List.countP_append, List.countP_append, countP_sought,
        countP_directly]
      rfl

end Step

section Run

variable {c}

theorem countP_dealingsAt (m : Moment c.slot) (w : World) :
    (c.dealingsAt m w).countP Asked.connected =
      if c.slot ∈ w.filled then 0 else if c.slot ∈ (c.usedAt m w).2.filled then 1 else 0 := by
  have hcount := (c.answeredBy m.ask).countP_dealings m.use (m.outside w)
  exact hcount.trans (if_congr (m.slotKept w) rfl rfl)

theorem filled_after (moments : List (Moment c.slot)) {w : World} (h : c.slot ∈ w.filled) :
    c.slot ∈ (c.after moments w).filled := by
  induction moments generalizing w with
  | nil => exact h
  | cons m moments ih => exact ih (Program.filled_run ((m.slotKept w).mpr h))

theorem countP_told (moments : List (Moment c.slot)) (w : World) :
    (c.told moments w).countP Asked.connected =
      if c.slot ∈ w.filled then 0 else if c.slot ∈ (c.after moments w).filled then 1 else 0 := by
  induction moments generalizing w with
  | nil =>
    by_cases hs : c.slot ∈ w.filled <;> simp [told, after, hs]
  | cons m moments ih =>
    rw [told, List.countP_append, countP_dealingsAt, ih, after]
    by_cases hs : c.slot ∈ w.filled
    · have hmid : c.slot ∈ (c.usedAt m w).2.filled := Program.filled_run ((m.slotKept w).mpr hs)
      rw [if_pos hs, if_pos hs, if_pos hmid]
    · rw [if_neg hs, if_neg hs]
      by_cases hmid : c.slot ∈ (c.usedAt m w).2.filled
      · rw [if_pos hmid, if_pos hmid, if_pos (filled_after moments hmid)]
      · rw [if_neg hmid, if_neg hmid, Nat.zero_add]

/-- In a run that begins without a client, no more than one attempt succeeds, and the slot is filled
just when one has. Whatever comes to pass then, the next use has the credentials anew and makes an
attempt if none has succeeded; else it is what it would be with a client that has always been
there, and neither credentials nor an attempt are asked for. -/
theorem built_by_first_success (c : LazyClient) (w : World) (h : c.slot ∉ w.filled)
    (moments : List (Moment c.slot)) :
    (c.told moments w).countP Asked.connected ≤ 1 ∧
      (c.slot ∈ (c.after moments w).filled ↔ ∃ x ∈ c.told moments w, x.connected = true) ∧
      ∀ m : Moment c.slot,
        ((∀ x ∈ c.told moments w, x.connected = false) →
          (c.answeredBy m.ask).Attempts m.use (m.outside (c.after moments w))) ∧
        ((∃ x ∈ c.told moments w, x.connected = true) →
          (c.answeredBy m.ask).Serves m.use (m.outside (c.after moments w)) ∧
            c.dealingsAt m (c.after moments w) =
              (c.directly m.use).dealings (m.outside (c.after moments w))) := by
  have hcount := countP_told moments w
  rw [if_neg h] at hcount
  have hbuilt :
      c.slot ∈ (c.after moments w).filled ↔ ∃ x ∈ c.told moments w, x.connected = true := by
    rw [← List.countP_pos_iff, hcount]
    by_cases hs : c.slot ∈ (c.after moments w).filled <;> simp [hs]
  refine ⟨?_, hbuilt, fun m => ⟨fun hnone => ?_, fun hsome => ?_⟩⟩
  · rw [hcount]
    split <;> decide
  · refine attempts_empty m.use fun hs => ?_
    obtain ⟨x, hx, hconnected⟩ := hbuilt.mp ((m.slotKept _).mp hs)
    rw [hnone x hx] at hconnected
    cases hconnected
  · exact serves_filled m.use ((m.slotKept _).mpr (hbuilt.mpr hsome))

end Run

def ofUser : LazyClient where
  slot := 0
  backend := .serviceAccount
  auth := .serviceAccount
    ⟨.serviceAccount, ["OP_SERVICE_ACCOUNT_TOKEN"], some ⟨fun _ => .error .aborted⟩⟩
  limit := Duration.zero

def listing : Use := .operate .sample .propagate .keys

/-- The user does not answer; then the connector is down; then both are there. -/
def hesitation : List (Moment ofUser.slot) :=
  [{ outside := id, slotKept := fun _ => Iff.rfl, ask := fun _ => .error .aborted, use := listing },
    { outside := fun w => { w with connectorFailure := some "down" }, slotKept := fun _ => Iff.rfl,
      ask := fun _ => .ok "old token", use := listing },
    { outside := fun w => { w with connectorFailure := none }, slotKept := fun _ => Iff.rfl,
      ask := fun _ => .ok "new token", use := .prepare }]

def afterwards : Moment ofUser.slot where
  outside := fun w => { w with connectorFailure := some "down" }
  slotKept := fun _ => Iff.rfl
  ask := fun _ => .error .aborted
  use := listing

theorem built_after_hesitation :
    let w := World.ofVault (.ofItems []) Timestamp.noon
    ofUser.slot ∉ w.filled ∧ (ofUser.told hesitation w).countP Asked.connected = 1 ∧
      ofUser.slot ∈ (ofUser.after hesitation w).filled ∧
      (ofUser.answeredBy afterwards.ask).Serves listing
        (afterwards.outside (ofUser.after hesitation w)) := by
  intro w
  have hempty : ofUser.slot ∉ w.filled := List.not_mem_nil
  have hcount : (ofUser.told hesitation w).countP Asked.connected = 1 := by decide +kernel
  obtain ⟨-, hbuilt, hnext⟩ := built_by_first_success ofUser w hempty hesitation
  have hsome : ∃ x ∈ ofUser.told hesitation w, x.connected = true :=
    List.countP_pos_iff.mp (hcount ▸ Nat.one_pos)
  exact ⟨hempty, hcount, hbuilt.mpr hsome, ((hnext afterwards).2 hsome).1⟩

end LazyClient

end VaultRing
