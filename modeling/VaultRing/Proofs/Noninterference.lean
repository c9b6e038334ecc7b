import VaultRing.Proofs.ScopesApart
import VaultRing.Proofs.SeenAlike

namespace VaultRing

def answersTo (scope : Scope) (turns : List Turn) (answers : List (Except KeyringError Answer)) :
    List (Except KeyringError Answer) :=
  ((turns.zip answers).filter (·.1.keyring.scope = scope)).map (·.2)

section AnswersTo

variable {scope : Scope} {t : Turn} {turns : List Turn} {answer : Except KeyringError Answer}
  {answers : List (Except KeyringError Answer)}

theorem answersTo_cons_own (h : t.keyring.scope = scope) :
    answersTo scope (t :: turns) (answer :: answers) = answer :: answersTo scope turns answers := by
  unfold answersTo
  rw [List.zip_cons_cons, List.filter_cons_of_pos (by simpa using h), List.map_cons]

theorem answersTo_cons_other (h : t.keyring.scope ≠ scope) :
    answersTo scope (t :: turns) (answer :: answers) = answersTo scope turns answers := by
  unfold answersTo
  rw [List.zip_cons_cons, List.filter_cons_of_neg (by simpa using h)]

end AnswersTo

structure Turn.SameButClock (T : Timestamp → Timestamp → Prop) (t t' : Turn) : Prop where
  keyring : t'.keyring = t.keyring
  operation : t'.operation = t.operation
  clock : T t.conditions.clock t'.conditions.clock
  conditions : t'.conditions = { t.conditions with clock := t'.conditions.clock }

structure World.CalmAlike (T : Timestamp → Timestamp → Prop) (w w' : World) : Prop where
  healthy : w.vault.failure = none
  undelayed : w.vault.delay = none
  conditions : w'.conditions = { w.conditions with clock := w'.clock }
  clock : T w.clock w'.clock

namespace World.CalmAlike

variable {T : Timestamp → Timestamp → Prop} {w w' : World} (h : w.CalmAlike T w')
include h

theorem healthy' : w'.vault.failure = none :=
  (congrArg Conditions.failure h.conditions).trans h.healthy

theorem undelayed' : w'.vault.delay = none :=
  (congrArg Conditions.delay h.conditions).trans h.undelayed

theorem connector_eq : w'.connectorFailure = w.connectorFailure :=
  congrArg Conditions.connectorFailure h.conditions

theorem environment_eq : w'.environment = w.environment :=
  congrArg Conditions.environment h.conditions

end World.CalmAlike

/-- To a scope the vaults look alike, and the slots in `own` are filled or empty alike. -/
structure World.LooksAlike (T : Timestamp → Timestamp → Prop) (scope : Scope) (own : Slot → Prop)
    (w w' : World) : Prop where
  seen : w.vault.SeenAlike T scope w'.vault
  filled : ∀ slot, own slot → (slot ∈ w'.filled ↔ slot ∈ w.filled)

/-- The world `w`, where `acting` is at work too, is to `scope` like `w'`. -/
structure World.AlikeFor (T : Timestamp → Timestamp → Prop) (acting scope : Scope)
    (own : Slot → Prop) (w w' : World) : Prop extends World.LooksAlike T scope own w w' where
  sound : w.vault.Sound
  sound' : w'.vault.Sound
  apart : w.vault.Apart acting scope

namespace World.AlikeFor

variable {T : Timestamp → Timestamp → Prop} {acting scope : Scope} {own : Slot → Prop}
  {w w' : World}

theorem refl (hs : w.vault.Sound) (ha : w.vault.Apart acting scope) :
    w.AlikeFor T acting scope own w :=
  ⟨⟨List.forall₂_same.mpr fun m _ => .refl m, fun _ _ => Iff.rfl⟩, hs, hs, ha⟩

theorem under (h : w.AlikeFor T acting scope own w') (c c' : Conditions) :
    (w.under c).AlikeFor T acting scope own (w'.under c') :=
  ⟨⟨h.seen, h.filled⟩, ⟨h.sound.distinct, h.sound.fresh⟩, ⟨h.sound'.distinct, h.sound'.fresh⟩,
    h.apart⟩

/-- What a keyring of the other scope does goes unnoticed. -/
theorem acting_perform {k : Keyring} (h : w.AlikeFor T k.scope scope own w')
    (hd : k.scope.Differs scope) (hslot : ∀ slot, own slot → k.transport.slot? ≠ some slot)
    (operation : Operation) :
    (Action.run (k.perform operation) w).2.AlikeFor T k.scope scope own w' := by
  have he := k.perform_effect h.sound.distinct operation
  refine ⟨⟨?_, fun slot hs => ?_⟩, he.sound h.sound, h.sound', he.apart h.sound.distinct hd h.apart⟩
  · unfold MemoryVault.SeenAlike
    rw [he.managedItems_eq h.sound.distinct hd h.apart]
    exact h.seen
  · exact (h.filled slot hs).trans (k.mem_filled_perform (hslot slot hs) operation w).symm

section Own

variable {k : Keyring} (h : w.AlikeFor T acting k.scope own w') (hc : w.CalmAlike T w')
  (hown : ∀ slot, k.transport.slot? = some slot → own slot) (operation : Operation)
include h hc hown

theorem fault?_eq : k.transport.fault? w' = k.transport.fault? w :=
  Transport.fault?_congr hc.environment_eq hc.connector_eq fun slot hs =>
    h.filled slot (hown slot hs)

/-- Without a client, a keyring of the scope is told why, and nothing is done. -/
theorem refused {e : KeyringError} (hf : k.transport.fault? w = some e) :
    (Action.run (k.perform operation) w).1 = (Action.run (k.perform operation) w').1 ∧
      (Action.run (k.perform operation) w).2.LooksAlike T k.scope own
        (Action.run (k.perform operation) w').2 := by
  have hf' := (h.fault?_eq hc hown).trans hf
  obtain ⟨u, hr, hn⟩ := (k.perform_opens w operation).refused e hf
  obtain ⟨u', hr', hn'⟩ := (k.perform_opens w' operation).refused e hf'
  rw [hr, hr']
  refine ⟨rfl, h.seen.of_items hn.items hn'.items, fun slot hs => ?_⟩
  rw [hn.mem_filled_iff, hn'.mem_filled_iff]
  exact h.filled slot hs

/-- Else it gets at the vault, which tells the same. -/
theorem served (ho : k.transport.OverVault) (hf : k.transport.fault? w = none) :
    AnswersAlike T (Action.run (k.perform operation) w).1 (Action.run (k.perform operation) w').1 ∧
      (Action.run (k.perform operation) w).2.LooksAlike T k.scope own
        (Action.run (k.perform operation) w').2 := by
  have hf' := (h.fault?_eq hc hown).trans hf
  have hserved : k.transport.Served w :=
    ⟨Transport.ready_of_no_fault ho hf, MemoryVault.answers_of_calm hc.healthy hc.undelayed _⟩
  have hserved' : k.transport.Served w' :=
    ⟨Transport.ready_of_no_fault ho hf', MemoryVault.answers_of_calm hc.healthy' hc.undelayed' _⟩
  have hout := Keyring.perform_hasOutcome hserved h.sound.distinct operation
  have hout' := Keyring.perform_hasOutcome hserved' h.sound'.distinct operation
  refine ⟨?_, ?_, fun slot hs => ?_⟩
  · rw [hout.answer, hout'.answer]
    exact Keyring.answerFrom_alike h.seen operation
  · exact Keyring.itemsAfter_alike h.seen h.sound.distinct h.sound'.distinct hc.clock operation
      hout.items hout'.items
  · by_cases hslot : k.transport.slot? = some slot
    · exact iff_of_true ((k.perform_opens w' operation).built hf' slot hslot)
        ((k.perform_opens w operation).built hf slot hslot)
    · rw [k.mem_filled_perform hslot, k.mem_filled_perform hslot]
      exact h.filled slot hs

/-- A keyring of the scope itself answers alike, and all stays alike. -/
theorem own_perform (ho : k.transport.OverVault) (hd : acting.Differs k.scope) :
    AnswersAlike T (Action.run (k.perform operation) w).1 (Action.run (k.perform operation) w').1 ∧
      (Action.run (k.perform operation) w).2.AlikeFor T acting k.scope own
        (Action.run (k.perform operation) w').2 := by
  have he := k.perform_effect h.sound.distinct operation
  have he' := k.perform_effect h.sound'.distinct operation
  have hapart := (he.apart h.sound.distinct hd.symm h.apart.symm).symm
  cases hf : k.transport.fault? w with
  | some e =>
    obtain ⟨hanswer, hlooks⟩ := h.refused hc hown operation hf
    exact ⟨.inl hanswer, hlooks, he.sound h.sound, he'.sound h.sound', hapart⟩
  | none =>
    obtain ⟨hanswer, hlooks⟩ := h.served hc hown operation ho hf
    exact ⟨hanswer, hlooks, he.sound h.sound, he'.sound h.sound', hapart⟩

end Own

end World.AlikeFor

section Runs

variable {T : Timestamp → Timestamp → Prop} {acting scope : Scope}

structure Turn.Calm (t : Turn) : Prop where
  overVault : t.keyring.transport.OverVault
  healthy : t.conditions.failure = none
  undelayed : t.conditions.delay = none

theorem Turn.SameButClock.calmAlike {t t' : Turn} (h : t.SameButClock T t') (hc : t.Calm)
    (w w' : World) : (w.under t.conditions).CalmAlike T (w'.under t'.conditions) :=
  ⟨hc.healthy, hc.undelayed, h.conditions, h.clock⟩

/-- A turn of the one scope or of the other; which slots are used tells them apart. -/
inductive Turn.Belongs (acting scope : Scope) (own : Slot → Prop) (t : Turn) : Prop where
  | acting (hs : t.keyring.scope = acting)
      (hslot : ∀ slot, own slot → t.keyring.transport.slot? ≠ some slot)
  | own (hs : t.keyring.scope = scope) (hc : t.Calm)
      (hslot : ∀ slot, t.keyring.transport.slot? = some slot → own slot)

theorem runTurns_alike (hd : acting.Differs scope) {own : Slot → Prop} (turns alone : List Turn)
    (hturns : ∀ t ∈ turns, t.Belongs acting scope own)
    (halone : List.Forall₂ (Turn.SameButClock T) (turns.filter (·.keyring.scope = scope)) alone)
    {w w' : World} (h : w.AlikeFor T acting scope own w') :
    List.Forall₂ (AnswersAlike T) (answersTo scope turns (runTurns turns w).1)
      (runTurns alone w').1 := by
  induction turns generalizing alone w w' with
  | nil =>
    obtain rfl := List.forall₂_nil_left_iff.mp halone
    exact .nil
  | cons t turns ih =>
    have hrun : (runTurns (t :: turns) w).1 = (t.run w).1 :: (runTurns turns (t.run w).2).1 := rfl
    obtain ⟨ht, hrest⟩ := List.forall_mem_cons.mp hturns
    rw [hrun]
    cases ht with
    | acting hs hslot =>
      subst hs
      rw [List.filter_cons_of_neg (by simpa using hd.ne)] at halone
      rw [answersTo_cons_other hd.ne]
      -- Nothing happens in the other run meanwhile, so its conditions stay.
      have hnext := (h.under t.conditions w'.conditions).acting_perform hd hslot t.operation
      exact ih alone hrest halone hnext
    | own hs hc hslot =>
      subst hs
      rw [List.filter_cons_of_pos (by simp)] at halone
      obtain ⟨t', later, hsame, hlater, rfl⟩ := List.forall₂_cons_left_iff.mp halone
      obtain ⟨hanswer, hnext⟩ := (h.under t.conditions t'.conditions).own_perform
        (hsame.calmAlike hc w w') hslot t.operation hc.overVault hd
      have hrun' : t'.run w' =
          Action.run (t.keyring.perform t.operation) (w'.under t'.conditions) := by
        rw [Turn.run, hsame.keyring, hsame.operation]
      rw [← hrun'] at hanswer hnext
      rw [answersTo_cons_own rfl]
      exact .cons hanswer (ih later hrest hlater hnext)

/-- What keyrings of the scope `acting` do to a vault is not told to those of `scope`: their answers
are the ones of the run without the turns of `acting`, but for the times that the clock has shown
meanwhile. The scopes differ in more than their prefixes and have no item in common, and a client
that is built on first use is its transport's own. -/
theorem scopes_do_not_interfere (T : Timestamp → Timestamp → Prop) (acting scope : Scope)
    (w : World) (hdiffer : acting.Differs scope) (hd : w.vault.Distinct) (hf : w.vault.Fresh)
    (hapart : w.vault.Apart acting scope) (turns alone : List Turn)
    (hscopes : ∀ t ∈ turns, t.keyring.scope = acting ∨ t.keyring.scope = scope)
    (hcalm : ∀ t ∈ turns, t.keyring.scope = scope → t.Calm)
    (hslots : ∀ t ∈ turns, t.keyring.scope = acting → ∀ u ∈ turns, u.keyring.scope = scope →
      ∀ slot, u.keyring.transport.slot? = some slot → t.keyring.transport.slot? ≠ some slot)
    (halone : List.Forall₂ (Turn.SameButClock T) (turns.filter (·.keyring.scope = scope)) alone) :
    List.Forall₂ (AnswersAlike T) (answersTo scope turns (runTurns turns w).1)
      (runTurns alone w).1 := by
  let own (slot : Slot) : Prop :=
    ∃ u ∈ turns, u.keyring.scope = scope ∧ u.keyring.transport.slot? = some slot
  have hturns : ∀ t ∈ turns, t.Belongs acting scope own := by
    intro t ht
    rcases hscopes t ht with hs | hs
    · refine .acting hs fun slot ⟨u, hu, hus, huslot⟩ => ?_
      exact hslots t ht hs u hu hus slot huslot
    · exact .own hs (hcalm t ht hs) fun slot hslot => ⟨t, ht, hs, hslot⟩
  exact runTurns_alike hdiffer turns alone hturns halone (.refl ⟨hd, hf⟩ hapart)

end Runs

section Neighbouring

def leftScope : Scope := ⟨"v", "kr", "left", "keyring"⟩

def rightScope : Scope := ⟨"v", "kr", "right", "keyring"⟩

def neighbouringVault : MemoryVault where
  items :=
    [leftScope.created 0 Timestamp.noon "kr: a" (Payload.write ⟨"a", [1]⟩),
      rightScope.created 2 Timestamp.noon "kr: a" (Payload.write ⟨"a", [2]⟩)]
  drawn := 4
  calls := CallCounts.zero
  delay := none
  failure := none

theorem neighbouringVault_fresh : neighbouringVault.Fresh :=
  MemoryVault.fresh_of_given fun item hi => by
    rcases List.mem_pair.mp hi with rfl | rfl
    · exact ⟨1, by decide, rfl⟩
    · exact ⟨3, by decide, rfl⟩

/-- The connector fails at first, when the right scope has yet to build its client. -/
def neighbouringTurns : List Turn :=
  let calm := (World.ofVault neighbouringVault Timestamp.noon).conditions
  let lazy (scope : Scope) (slot : Slot) : Keyring :=
    ⟨scope, .lazy slot .desktop (.desktop "account") Duration.zero, .zeroWhenMissing⟩
  let connect (scope : Scope) : Keyring := ⟨scope, .connect .vault, .propagate⟩
  [⟨calm, connect leftScope, .set ⟨"a", [3]⟩⟩,
    ⟨{ calm with connectorFailure := some "down" }, lazy rightScope 0, .get "a"⟩,
    ⟨calm, lazy leftScope 1, .remove "a"⟩, ⟨calm, lazy rightScope 0, .set ⟨"a", [4]⟩⟩,
    ⟨calm, connect leftScope, .set ⟨"b", [5]⟩⟩, ⟨calm, connect rightScope, .set ⟨"b", [6]⟩⟩,
    ⟨calm, lazy rightScope 0, .getMetadata "b"⟩, ⟨calm, connect rightScope, .keys⟩]

def laterTurns : List Turn :=
  (neighbouringTurns.filter (·.keyring.scope = rightScope)).map fun t =>
    { t with conditions := { t.conditions with clock := Timestamp.atTwo } }

theorem laterTurns_same :
    List.Forall₂ (Turn.SameButClock fun now now' => now = Timestamp.noon ∧ now' = Timestamp.atTwo)
      (neighbouringTurns.filter (·.keyring.scope = rightScope)) laterTurns := by
  have hnoon : ∀ t ∈ neighbouringTurns, t.conditions.clock = Timestamp.noon := by
    simp [neighbouringTurns, World.conditions, World.ofVault]
  unfold laterTurns
  rw [List.forall₂_map_right_iff, List.forall₂_same]
  intro t ht
  exact ⟨rfl, rfl, ⟨hnoon t (List.mem_of_mem_filter ht), rfl⟩, rfl⟩

theorem neighbouring_scopes_do_not_interfere :
    leftScope.Differs rightScope ∧ neighbouringVault.Distinct ∧ neighbouringVault.Fresh ∧
      neighbouringVault.Apart leftScope rightScope ∧
      answersTo rightScope neighbouringTurns
          (runTurns neighbouringTurns (World.ofVault neighbouringVault Timestamp.noon)).1 =
        [.error (.clientInit .desktop (.client "down")), .ok .done, .ok .done,
          .ok (.metadata ⟨some Timestamp.noon⟩), .ok (.keys ["a", "b"])] ∧
      List.Forall₂ (AnswersAlike fun now now' => now = Timestamp.noon ∧ now' = Timestamp.atTwo)
        (answersTo rightScope neighbouringTurns
          (runTurns neighbouringTurns (World.ofVault neighbouringVault Timestamp.noon)).1)
        (runTurns laterTurns (World.ofVault neighbouringVault Timestamp.noon)).1 := by
  have hdiffer : leftScope.Differs rightScope := .inr (.inl (by decide))
  have hd : neighbouringVault.Distinct := by decide
  have hapart : neighbouringVault.Apart leftScope rightScope := by decide
  have hleft : ∀ t ∈ neighbouringTurns, t.keyring.scope = leftScope →
      t.keyring.transport.slot? ≠ some 0 := by decide
  have hright : ∀ u ∈ neighbouringTurns, u.keyring.scope = rightScope →
      ∀ slot ∈ u.keyring.transport.slot?, slot = 0 := by decide
  refine ⟨hdiffer, hd, neighbouringVault_fresh, hapart, by decide, ?_⟩
  refine scopes_do_not_interfere _ leftScope rightScope
    (World.ofVault neighbouringVault Timestamp.noon) hdiffer hd neighbouringVault_fresh hapart
    neighbouringTurns laterTurns (by decide) ?_ ?_ laterTurns_same
  · intro t ht _
    simp only [neighbouringTurns, List.mem_cons, List.not_mem_nil, or_false] at ht
    rcases ht with rfl | rfl | rfl | rfl | rfl | rfl | rfl | rfl
    all_goals exact ⟨by trivial, rfl, rfl⟩
  · intro t ht hs u hu hus slot hslot
    rw [hright u hu hus slot hslot]
    exact hleft t ht hs

end Neighbouring

end VaultRing
