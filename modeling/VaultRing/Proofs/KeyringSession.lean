import VaultRing.Proofs.KeyringEffect

namespace VaultRing

def Timestamp.noon : Timestamp where
  date := ⟨2020, 1, 1, by decide⟩
  hour := ⟨12, by decide⟩
  minute := ⟨0, by decide⟩
  second := ⟨0, by decide⟩
  nanos := Duration.zero.nanos

def Timestamp.atTwo : Timestamp := { Timestamp.noon with hour := ⟨14, by decide⟩ }

def World.under (w : World) (c : Conditions) : World :=
  { w with
    clock := c.clock
    connectorFailure := c.connectorFailure
    environment := c.environment
    vault := { w.vault with failure := c.failure, delay := c.delay } }

structure Turn where
  conditions : Conditions
  keyring : Keyring
  operation : Operation

def Turn.run (t : Turn) (w : World) : Except KeyringError Answer × World :=
  Action.run (t.keyring.perform t.operation) (w.under t.conditions)

def runTurns : List Turn → World → List (Except KeyringError Answer) × World
  | [], w => ([], w)
  | t :: turns, w =>
    let (answer, w) := t.run w
    let (answers, w) := runTurns turns w
    (answer :: answers, w)

theorem Turn.run_effect (t : Turn) {w : World} (hd : w.vault.Distinct) :
    t.keyring.Effect (w.under t.conditions) (t.run w).2 :=
  Keyring.perform_effect (w := w.under t.conditions) t.keyring hd t.operation

/-- A property of the vault that every effect of a keyring keeps holds after every run. -/
theorem runTurns_keeps {P : MemoryVault → Prop} (hdistinct : ∀ v, P v → v.Distinct)
    (hunder : ∀ w c, P w.vault → P (World.under w c).vault)
    (hstep : ∀ (k : Keyring) (w w' : World), k.Effect w w' → P w.vault → P w'.vault)
    (turns : List Turn) (w : World) (h : P w.vault) : P (runTurns turns w).2.vault := by
  induction turns generalizing w with
  | nil => exact h
  | cons t turns ih =>
    have hu := hunder w t.conditions h
    exact ih (t.run w).2 (hstep t.keyring _ _ (t.run_effect (hdistinct _ h)) hu)

section Samples

def Keyring.sampleStandard : Keyring :=
  ⟨.sample, .standard .standard Duration.zero, .zeroWhenMissing⟩

def Keyring.sampleLazy : Keyring :=
  ⟨.sample, .lazy 0 .desktop (.desktop "account") Duration.zero, .zeroWhenMissing⟩

def Keyring.sampleConnect : Keyring := ⟨.sample, .connect .vault, .propagate⟩

def MemoryVault.sample : MemoryVault where
  items :=
    [Scope.sample.created 0 Timestamp.noon "kr: a" (Payload.write ⟨"a", [1]⟩),
      Scope.sample.created 2 Timestamp.noon "kr: b" (Payload.write ⟨"b", [2]⟩)]
  drawn := 4
  calls := CallCounts.zero
  delay := none
  failure := none

theorem MemoryVault.sample_fresh : MemoryVault.sample.Fresh :=
  MemoryVault.fresh_of_given fun item hi => by
    rcases List.mem_cons.mp hi with rfl | hi
    · exact ⟨1, by decide, rfl⟩
    · obtain rfl := List.mem_singleton.mp hi
      exact ⟨3, by decide, rfl⟩

end Samples

section Undisturbed

theorem MemoryVault.answers_of_calm {v : MemoryVault} (hf : v.failure = none)
    (hd : v.delay = none) (limit : Option Duration) : v.Answers limit :=
  ⟨by simp [MemoryVault.isLate, hd], hf⟩

def Transport.Works (c : Conditions) : Transport → Prop
  | .standard .. | .connect .vault => True
  | .lazy _ _ auth _ => c.connectorFailure = none ∧ auth.Available c.environment
  | .connect (.http _) => False

/-- No failure and no delay is injected, and the transport gets at the vault. -/
structure Transport.Undisturbed (t : Transport) (c : Conditions) : Prop where
  healthy : c.failure = none
  undelayed : c.delay = none
  works : t.Works c

theorem Transport.Undisturbed.served {t : Transport} {w : World} (h : t.Undisturbed w.conditions) :
    t.Served w := by
  obtain ⟨hf, hd, hw⟩ := h
  have hready : t.Ready w := by
    cases t with
    | standard backend limit => trivial
    | lazy slot backend auth limit => exact .inr hw
    | connect client =>
      cases client with
      | vault => trivial
      | http c => exact hw
  exact ⟨hready, MemoryVault.answers_of_calm hf hd _⟩

end Undisturbed

namespace MemoryVault

/-- Every item has a place of its own, and so will every item that is still to be created. -/
structure Sound (v : MemoryVault) : Prop where
  distinct : v.Distinct
  fresh : v.Fresh

theorem Sound.of_items {v v' : MemoryVault} (h : v.Sound) (hi : v'.items.Sublist v.items)
    (hn : v.drawn ≤ v'.drawn) : v'.Sound where
  distinct := h.distinct.sublist (hi.map place)
  fresh := fun item hm n hlt => h.fresh item (hi.subset hm) n (by omega)

theorem Sound.append {v v' : MemoryVault} (h : v.Sound) {item : VaultItem}
    (hid : item.id = idText (v.drawn + 1)) (hi : v'.items = v.items ++ [item])
    (hn : v.drawn < v'.drawn) : v'.Sound where
  distinct := by
    unfold Distinct
    rw [hi, List.map_append, List.map_singleton, List.nodup_append]
    refine ⟨h.distinct, List.nodup_singleton _, ?_⟩
    intro p hp q hq hpq
    obtain ⟨old, ho, rfl⟩ := List.mem_map.mp hp
    obtain rfl : q = place item := by simpa using hq
    have hsame : old.id = item.id := congrArg Prod.snd hpq
    exact h.fresh old ho (v.drawn + 1) (by omega) (hsame.trans hid)
  fresh := by
    intro i hm n hlt
    rw [hi, List.mem_append, List.mem_singleton] at hm
    rcases hm with ho | rfl
    · exact h.fresh i ho n (by omega)
    · rw [hid]
      intro he
      have := idText_injective he
      omega

theorem Sound.rewrite {v v' : MemoryVault} (h : v.Sound) {item : VaultItem}
    (hi : v'.items = MemoryVault.rewrite item v.items) (hn : v.drawn ≤ v'.drawn) : v'.Sound where
  distinct := by
    unfold Distinct
    rw [hi, map_place_rewrite]
    exact h.distinct
  fresh := by
    intro i hm n hlt
    have hplace : place i ∈ v.items.map place := by
      rw [← map_place_rewrite item, ← hi]
      exact List.mem_map_of_mem hm
    obtain ⟨old, ho, hp⟩ := List.mem_map.mp hplace
    have hid : old.id = i.id := congrArg Prod.snd hp
    exact hid ▸ h.fresh old ho n (by omega)

end MemoryVault

theorem Keyring.Effect.sound {k : Keyring} {w w' : World} (he : k.Effect w w')
    (h : w.vault.Sound) : w'.vault.Sound := by
  cases he with
  | read hr => exact h.of_items (by rw [hr.items]) (Nat.le_of_eq hr.drawn.symm)
  | create item hl hw => exact h.append rfl hw.items (by rw [hw.drawn]; omega)
  | update item m hl hw =>
    refine h.rewrite hw.items ?_
    rw [hw.drawn]
    exact MemoryVault.le_withFieldIds _ _
  | delete key m hl hw =>
    exact h.of_items (by rw [hw.items]; exact List.filter_sublist) (Nat.le_of_eq hw.drawn.symm)

end VaultRing
