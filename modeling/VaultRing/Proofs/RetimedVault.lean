import Mathlib.Data.List.Forall2
import VaultRing.Proofs.CoupledRuns
import VaultRing.Proofs.SeenAlike

namespace VaultRing

variable {T : Timestamp → Timestamp → Prop}

def VaultItem.Retimed (T : Timestamp → Timestamp → Prop) (i i' : VaultItem) : Prop :=
  ∃ t, TimesAlike T i.updatedAt t ∧ i' = { i with updatedAt := t }

def Overview.Retimed (T : Timestamp → Timestamp → Prop) (o o' : Overview) : Prop :=
  ∃ t, TimesAlike T o.updatedAt t ∧ o' = { o with updatedAt := t }

def GatewayItem.Retimed (T : Timestamp → Timestamp → Prop) (i i' : GatewayItem) : Prop :=
  ∃ t, TimesAlike T i.updatedAt t ∧ i' = { i with updatedAt := t }

def ManagedItem.Retimed (T : Timestamp → Timestamp → Prop) (m m' : ManagedItem) : Prop :=
  ∃ t, TimesAlike T m.updatedAt t ∧ m' = { m with updatedAt := t }

section Items

variable {i i' : VaultItem}

theorem VaultItem.Retimed.refl (i : VaultItem) : i.Retimed T i := ⟨i.updatedAt, .inl rfl, rfl⟩

theorem VaultItem.Retimed.overview (h : i.Retimed T i') :
    i.overview.Retimed T i'.overview := by
  obtain ⟨t, ht, rfl⟩ := h
  exact ⟨t, ht, rfl⟩

theorem VaultItem.Retimed.ofVaultItem (h : i.Retimed T i') :
    (GatewayItem.ofVaultItem i).Retimed T (GatewayItem.ofVaultItem i') := by
  obtain ⟨t, ht, rfl⟩ := h
  exact ⟨t, ht, rfl⟩

theorem VaultItem.Retimed.isAt_eq (h : i.Retimed T i') (vaultId itemId : String) :
    MemoryVault.isAt vaultId itemId i = MemoryVault.isAt vaultId itemId i' := by
  obtain ⟨t, -, rfl⟩ := h
  rfl

theorem VaultItem.Retimed.managed? (h : i.Retimed T i') (scope : Scope) :
    List.Forall₂ (ManagedItem.Retimed T) (scope.managed? i).toList (scope.managed? i').toList := by
  obtain ⟨t, ht, rfl⟩ := h
  simp only [Scope.managed?]
  split
  · exact .nil
  split
  · split
    · exact .cons ⟨t, ht, rfl⟩ .nil
    · exact .nil
  · exact .nil

theorem GatewayItem.Retimed.toVaultItem {g g' : GatewayItem} (h : g.Retimed T g') :
    g.toVaultItem.Retimed T g'.toVaultItem := by
  obtain ⟨t, ht, rfl⟩ := h
  exact ⟨t, ht, rfl⟩

theorem GatewayItem.Retimed.overview {g g' : GatewayItem} (h : g.Retimed T g') :
    g.overview.Retimed T g'.overview := by
  obtain ⟨t, ht, rfl⟩ := h
  exact ⟨t, ht, rfl⟩

end Items

section Lists

variable {items items' : List VaultItem} (h : List.Forall₂ (VaultItem.Retimed T) items items')
include h

theorem find?_isAt_retimed (vaultId itemId : String) :
    Option.Rel (VaultItem.Retimed T) (items.find? (MemoryVault.isAt vaultId itemId))
      (items'.find? (MemoryVault.isAt vaultId itemId)) := by
  induction h with
  | nil => exact .none
  | @cons i i' items items' hi _ ih =>
    rw [List.find?_cons, List.find?_cons, ← hi.isAt_eq]
    cases MemoryVault.isAt vaultId itemId i with
    | true => exact .some hi
    | false => exact ih

theorem any_isAt_retimed (vaultId itemId : String) :
    items.any (MemoryVault.isAt vaultId itemId) =
      items'.any (MemoryVault.isAt vaultId itemId) := by
  induction h with
  | nil => rfl
  | cons hi _ ih => rw [List.any_cons, List.any_cons, hi.isAt_eq, ih]

theorem replaceFirst_retimed {i i' : VaultItem} (hi : i.Retimed T i') :
    Option.Rel (List.Forall₂ (VaultItem.Retimed T)) (MemoryVault.replaceFirst i items)
      (MemoryVault.replaceFirst i' items') := by
  have hplace : i'.vaultId = i.vaultId ∧ i'.id = i.id := by
    obtain ⟨t, -, rfl⟩ := hi
    exact ⟨rfl, rfl⟩
  induction h with
  | nil => exact .none
  | @cons j j' items items' hj hitems ih =>
    rw [MemoryVault.replaceFirst, MemoryVault.replaceFirst, hplace.1, hplace.2, ← hj.isAt_eq]
    cases MemoryVault.isAt i.vaultId i.id j with
    | true => exact .some (.cons hi hitems)
    | false =>
      generalize MemoryVault.replaceFirst i items = r at ih ⊢
      generalize MemoryVault.replaceFirst i' items' = r' at ih ⊢
      cases ih with
      | some hr => exact .some (.cons hj hr)
      | none => exact .none

end Lists

/-- The same vault but for times, in two runs whose calls take the times `d` and `d'`. -/
structure MemoryVault.Beside (T : Timestamp → Timestamp → Prop) (d d' : Option Nat)
    (v v' : MemoryVault) : Prop where
  items : List.Forall₂ (VaultItem.Retimed T) v.items v'.items
  drawn : v.drawn = v'.drawn
  calls : v.calls = v'.calls
  healthy : v.failure = none
  healthy' : v'.failure = none
  delay : v.delay = d
  delay' : v'.delay = d'

/-- No call that has to be answered within the limit, if there is one, is late. -/
def Keeps (limit : Option Duration) (d : Option Nat) : Prop :=
  ∀ l ∈ limit, ∀ ms ∈ d, ms ≤ l.milliseconds

theorem MemoryVault.isLate_of_keeps {v : MemoryVault} {limit : Option Duration} {d : Option Nat}
    (h : Keeps limit d) (hd : v.delay = d) : v.isLate limit = false := by
  unfold isLate
  split
  · rename_i ms l hms
    have hle := h l rfl ms (by rw [← hd]; exact hms)
    exact decide_eq_false (Nat.not_lt.mpr hle)
  · rfl

namespace MemoryVault.Beside

variable {d d' : Option Nat} {v v' : MemoryVault} (h : v.Beside T d d' v')
include h

theorem counted (kind : CallKind) : (v.counted kind).Beside T d d' (v'.counted kind) :=
  ⟨h.items, h.drawn, congrArg (·.count kind) h.calls, h.healthy, h.healthy', h.delay, h.delay'⟩

theorem answers {limit : Option Duration} (hl : Keeps limit d) : v.Answers limit :=
  ⟨isLate_of_keeps hl h.delay, h.healthy⟩

theorem answers' {limit : Option Duration} (hl : Keeps limit d') : v'.Answers limit :=
  ⟨isLate_of_keeps hl h.delay', h.healthy'⟩

theorem find (vaultId itemId : String) :
    ResultsAlike (VaultItem.Retimed T) (v.find vaultId itemId) (v'.find vaultId itemId) := by
  have hfound := find?_isAt_retimed h.items vaultId itemId
  unfold MemoryVault.find
  generalize v.items.find? (isAt vaultId itemId) = r at hfound ⊢
  generalize v'.items.find? (isAt vaultId itemId) = r' at hfound ⊢
  cases hfound with
  | some hi => exact .ok hi
  | none => exact .error _

theorem overviews (vaultId : String) (filter : ListFilter) :
    List.Forall₂ (Overview.Retimed T) (v.overviews vaultId filter)
      (v'.overviews vaultId filter) := by
  unfold MemoryVault.overviews
  rw [List.forall₂_map_left_iff, List.forall₂_map_right_iff]
  refine (List.rel_filter ?_ h.items).imp fun i i' hi => hi.overview
  rintro i i' ⟨t, -, rfl⟩
  rfl

theorem gatewayOverviews (vaultId : String) (title : Option String) :
    List.Forall₂ (GatewayItem.Retimed T) (v.gatewayOverviews vaultId title)
      (v'.gatewayOverviews vaultId title) := by
  unfold MemoryVault.gatewayOverviews
  rw [List.forall₂_map_left_iff, List.forall₂_map_right_iff]
  refine (List.rel_filter ?_ h.items).imp fun i i' hi => hi.ofVaultItem.overview
  rintro i i' ⟨t, -, rfl⟩
  rfl

theorem store {now now' : Timestamp} (hnow : T now now') {i i' : VaultItem}
    (hi : i.Retimed T i') :
    (v.store now i).1.Retimed T (v'.store now' i').1 ∧
      (v.store now i).2.Beside T d d' (v'.store now' i').2 := by
  obtain ⟨t, -, rfl⟩ := hi
  have hnew : (v.store now i).1.Retimed T (v'.store now' { i with updatedAt := t }).1 := by
    refine ⟨some now', .inr ⟨now, now', hnow, rfl, rfl⟩, ?_⟩
    simp only [MemoryVault.store, h.drawn]
  refine ⟨hnew, List.rel_append h.items (.cons hnew .nil), ?_, h.calls, h.healthy, h.healthy',
    h.delay, h.delay'⟩
  simp only [MemoryVault.store, h.drawn]

theorem replace {i i' : VaultItem} (hi : i.Retimed T i') :
    ResultsAlike (VaultItem.Retimed T) (v.replace i).1 (v'.replace i').1 ∧
      (v.replace i).2.Beside T d d' (v'.replace i').2 := by
  obtain ⟨t, ht, rfl⟩ := hi
  have hsent : ({ i with fields := (withFieldIds v.drawn i.fields).1 } : VaultItem).Retimed T
      { i with fields := (withFieldIds v.drawn i.fields).1, updatedAt := t } := ⟨t, ht, rfl⟩
  have hplaced := replaceFirst_retimed h.items hsent
  simp only [MemoryVault.replace, ← h.drawn]
  generalize MemoryVault.replaceFirst _ v.items = r at hplaced ⊢
  generalize MemoryVault.replaceFirst _ v'.items = r' at hplaced ⊢
  cases hplaced with
  | some hitems => exact ⟨.ok hsent, hitems, rfl, h.calls, h.healthy, h.healthy', h.delay, h.delay'⟩
  | none => exact ⟨.error _, h.items, rfl, h.calls, h.healthy, h.healthy', h.delay, h.delay'⟩

theorem take (vaultId itemId : String) :
    ResultsAlike Eq (v.take vaultId itemId).1 (v'.take vaultId itemId).1 ∧
      (v.take vaultId itemId).2.Beside T d d' (v'.take vaultId itemId).2 := by
  unfold MemoryVault.take
  rw [← any_isAt_retimed h.items]
  split
  · refine ⟨.ok rfl, ?_, h.drawn, h.calls, h.healthy, h.healthy', h.delay, h.delay'⟩
    exact List.rel_filter (fun i i' hi => by simp only [hi.isAt_eq]) h.items
  · exact ⟨.error _, h⟩

end MemoryVault.Beside

section Calls

variable {d d' : Option Nat}

def ItemsCall.EffectsBeside (T : Timestamp → Timestamp → Prop) (call call' : ItemsCall)
    (S : call.Result → call'.Result → Prop) : Prop :=
  ∀ (d d' : Option Nat) (now now' : Timestamp) (v v' : MemoryVault), T now now' →
    v.Beside T d d' v' →
      ResultsAlike S (v.itemsEffect now call).1 (v'.itemsEffect now' call').1 ∧
        (v.itemsEffect now call).2.Beside T d d' (v'.itemsEffect now' call').2

def GatewayCall.EffectsBeside (T : Timestamp → Timestamp → Prop) (call call' : GatewayCall)
    (S : call.Result → call'.Result → Prop) : Prop :=
  ∀ (d d' : Option Nat) (now now' : Timestamp) (v v' : MemoryVault), T now now' →
    v.Beside T d d' v' →
      ResultsAlike S (v.gatewayEffect now call).1 (v'.gatewayEffect now' call').1 ∧
        (v.gatewayEffect now call).2.Beside T d d' (v'.gatewayEffect now' call').2

structure World.Beside (T : Timestamp → Timestamp → Prop) (d d' : Option Nat) (slots : List Slot)
    (w w' : World) : Prop where
  vault : w.vault.Beside T d d' w'.vault
  clock : T w.clock w'.clock
  filled : w.filled = slots
  filled' : w'.filled = slots

variable {slots : List Slot}

theorem Transport.itemsCall_beside {limit : Duration} {call call' : ItemsCall}
    {S : call.Result → call'.Result → Prop} (heffect : call.EffectsBeside T call' S)
    (hkind : call.kind = call'.kind) (hl : Keeps (some limit) d) (hl' : Keeps (some limit) d')
    (context : String) :
    (itemsCall limit context call).Couples (World.Beside T d d' slots) S
      (itemsCall limit context call') := by
  apply Action.Couples.orFail
  intro w w' hw
  obtain ⟨hresult, hvault⟩ :=
    heffect d d' w.clock w'.clock _ _ hw.clock (hw.vault.counted call.kind)
  have hanswer := MemoryVault.answerItems_of_answers (hw.vault.answers hl) w.clock call
  have hanswer' := MemoryVault.answerItems_of_answers (hw.vault.answers' hl') w'.clock call'
  rw [← hkind] at hanswer'
  change ResultsAlike S (w.vault.answerItems w.clock (some limit) call).1
      (w'.vault.answerItems w'.clock (some limit) call').1 ∧
    World.Beside T d d' slots
      { w with vault := (w.vault.answerItems w.clock (some limit) call).2 }
      { w' with vault := (w'.vault.answerItems w'.clock (some limit) call').2 }
  rw [hanswer, hanswer']
  exact ⟨hresult, hvault, hw.clock, hw.filled, hw.filled'⟩

theorem Transport.gatewayCall_beside {call call' : GatewayCall}
    {S : call.Result → call'.Result → Prop} (heffect : call.EffectsBeside T call' S)
    (hkind : call.kind = call'.kind) (context : String) :
    (gatewayCall .vault context call).Couples (World.Beside T d d' slots) S
      (gatewayCall .vault context call') := by
  apply Action.Couples.orFail
  intro w w' hw
  obtain ⟨hresult, hvault⟩ :=
    heffect d d' w.clock w'.clock _ _ hw.clock (hw.vault.counted call.kind)
  have hnone (d : Option Nat) : Keeps none d := fun l hl => absurd hl (Option.not_mem_none l)
  have hanswer := MemoryVault.answerGateway_of_answers (hw.vault.answers (hnone d)) w.clock call
  have hanswer' :=
    MemoryVault.answerGateway_of_answers (hw.vault.answers' (hnone d')) w'.clock call'
  rw [← hkind] at hanswer'
  change ResultsAlike S (w.vault.answerGateway w.clock call).1
      (w'.vault.answerGateway w'.clock call').1 ∧
    World.Beside T d d' slots
      { w with vault := (w.vault.answerGateway w.clock call).2 }
      { w' with vault := (w'.vault.answerGateway w'.clock call').2 }
  rw [hanswer, hanswer']
  exact ⟨hresult, hvault, hw.clock, hw.filled, hw.filled'⟩

end Calls

end VaultRing
