import VaultRing.Proofs.KeyringOutcome
import VaultRing.Proofs.SharedLookup
import VaultRing.Proofs.VaultMap

namespace VaultRing

variable {α β : Type}

def Operation.touch (scope : Scope) : Operation → Touch
  | .set item => ⟨(· = scope.encodeTitle item.key), fun _ => False⟩
  | .remove key => ⟨fun _ => False, (· = scope.encodeTitle key)⟩
  | .get _ | .has _ | .getMetadata _ | .keys => Touch.none

namespace Keyring

variable {k : Keyring} {o own : Touch} {w : World} {key : String}

section Reading

variable (hu : k.transport.Undisturbed w.conditions) (hs : w.vault.Sound)
  (ho : o.Spares (k.scope.encodeTitle key))
include hu hs ho

theorem find?_readsAmong :
    (k.find? key).ReadsAmong o w (k.Yields o w (existing (w.vault.lookup k.scope key))) := by
  have hfind := (find_readsAmong hu hs ho).mono fun r hr =>
    hr.through (f := existing) fun e he => by simp [existing, he]
  exact .recover (hfind.mapped some) (fun _ => rfl) fun e hr w₁ _ =>
    .ite hr fun he => .log_bind fun _ _ => .throw he

theorem get_readsAmong :
    (k.get key).ReadsAmong o w
      (k.Yields o w ((w.vault.lookup k.scope key).bind fun m => decode m.field.value)) := by
  refine .log_bind fun w₁ h₁ => ?_
  have hfind := (find_readsAmong (h₁.undisturbed hu) (h₁.sound hs) ho).mono fun r hr =>
    (hr.of_changed h₁ ho).through (f := fun r => r.bind fun m => decode m.field.value)
      fun _ _ => rfl
  rw [h₁.lookup_eq ho] at hfind
  exact .bind hfind (fun m hm w₂ _ => .ofExcept hm) fun e he => he

theorem has_readsAmong :
    (k.has key).ReadsAmong o w
      (k.Yields o w
        (presence ((w.vault.lookup k.scope key).bind fun m => decode m.field.value))) := by
  have hget := (get_readsAmong hu hs ho).mono fun r hr =>
    hr.through (f := presence) fun e he => by simp [presence, he]
  exact .recover (hget.bind_pure fun _ => true) (fun _ => rfl) fun e hr w₁ _ =>
    .ite hr fun he => .throw he

theorem getMetadata_readsAmong :
    (k.getMetadata key).ReadsAmong o w
      (k.Yields o w (metadata k.policy (w.vault.lookup k.scope key))) := by
  have hfind := (find_readsAmong hu hs ho).mono fun r hr =>
    hr.through (f := metadata k.policy) fun e he => by simp [metadata, he]
  exact .recover (hfind.bind_pure fun m => Metadata.mk m.updatedAt) (fun _ => rfl)
    fun e hr w₁ _ => .ite hr fun he => .throw he

end Reading

/-- What becomes of an operation in `w` while others touch other titles: with the result `r`, it
leaves `w'` behind. -/
structure Fate (k : Keyring) (o : Touch) (w : World) (operation : Operation) (title : String)
    (r : Except KeyringError Answer) (w' : World) : Prop where
  answer : k.Yields o w (k.answerFrom w.vault operation) r
  done : ∀ a, r = .ok a → ∃ drawn now, w.vault.drawn ≤ drawn ∧
    w'.vault.titled title =
      (k.itemsAfter { w.vault with drawn } now operation).filter (·.title == title)
  failed : ∀ e, r = .error e → w'.vault.titled title = w.vault.titled title

theorem Fate.of_read {operation : Operation} {title : String} {r : Except KeyringError Answer}
    {w' : World} (hr : k.Yields o w (k.answerFrom w.vault operation) r) (hw : w.Changed o w')
    (ho : o.Spares title)
    (hi : ∀ a, r = .ok a → ∀ now, k.itemsAfter w.vault now operation = w.vault.items) :
    k.Fate o w operation title r w' where
  answer := hr
  done := by
    intro a ha
    refine ⟨w.vault.drawn, w.clock, Nat.le_refl _, ?_⟩
    rw [hw.titled_eq ho]
    change _ = (k.itemsAfter w.vault w.clock operation).filter _
    rw [hi a ha w.clock]
    rfl
  failed := fun e _ => hw.titled_eq ho

end Keyring

section Writing

variable {o own : Touch} {w : World} {scope : Scope} {t : Transport}
  {post : Except KeyringError Unit → World → Prop}

/-- One writing request, whatever others have done before it and do after it. -/
theorem Action.Withstands.of_writes {a : Action Unit} {kind : CallKind}
    {items : World → List VaultItem} {drawn : World → Nat} (ha : a.Single)
    (hw : ∀ w₁, w.Changed o w₁ → a.Writes w₁ kind (items w₁) (drawn w₁))
    (h : ∀ w₁ w₂, w.Changed o w₁ → w₁.Wrote kind (items w₁) (drawn w₁) w₂ →
      w₁.Changed own w₂ ∧ ∀ w₃, w₂.Changed o w₃ → post (.ok ()) w₃) :
    a.Withstands (o.among own) post w := by
  refine .of_single ha fun w₁ h₁ => ?_
  obtain ⟨w₂, hrun, hwrote⟩ := hw w₁ h₁
  rw [hrun]
  exact h w₁ w₂ h₁ hwrote

namespace Transport

theorem lazy_withstands {slot : Slot} {backend : Backend} {auth : LazyAuth} {limit : Duration}
    (hu : (Transport.lazy slot backend auth limit).Undisturbed w.conditions) {a : Action Unit}
    (ha : ∀ w₁, w.Changed o w₁ → a.Withstands (o.among own) post w₁) :
    Action.Withstands (o.among own) post (ensureClient slot backend auth >>= fun _ => a) w :=
  (ensureClient_readsAmong hu).bind_withstands (fun _ _ w₁ h₁ => ha w₁ h₁) fun _ he => nomatch he

theorem create_withstands {title value : String} (hu : t.Undisturbed w.conditions)
    (h : ∀ w₁ w₂, w.Changed o w₁ →
      w₁.Wrote .create (w₁.vault.items ++ [scope.created w₁.vault.drawn w₁.clock title value])
        (w₁.vault.drawn + 2) w₂ →
      w₁.Changed own w₂ ∧ ∀ w₃, w₂.Changed o w₃ → post (.ok ()) w₃) :
    (t.create scope title value).Withstands (o.among own) post w := by
  have ha := hu.served.answers
  cases t with
  | standard backend limit =>
    exact .of_writes ((itemsCall_single _ _ _).bind_pure _)
      (fun w₁ h₁ => createItem_writes (h₁.answers ha)) h
  | lazy slot backend auth limit =>
    exact lazy_withstands hu fun w₁ h₁ => .of_writes ((itemsCall_single _ _ _).bind_pure _)
      (fun w₂ h₂ => createItem_writes (h₂.answers (h₁.answers ha)))
      fun w₂ w₃ h₂ => h w₂ w₃ (h₁.trans h₂)
  | connect client =>
    cases client with
    | vault =>
      exact .of_writes ((gatewayCall_single _ _).bind_pure _)
        (fun w₁ h₁ => createGatewayItem_writes (h₁.answers ha)) h
    | http c => exact absurd hu.works id

theorem update_withstands {m : ManagedItem} (hu : t.Undisturbed w.conditions)
    (hs : w.vault.Sound) (hm : ∀ w₁, w.Changed o w₁ → Rewritable scope w₁ m)
    (h : ∀ w₁ w₂, w.Changed o w₁ →
      w₁.Wrote .update
        (MemoryVault.rewrite (t.written scope w₁.vault.drawn m) w₁.vault.items)
        (MemoryVault.withFieldIds w₁.vault.drawn [m.field]).2 w₂ →
      w₁.Changed own w₂ ∧ ∀ w₃, w₂.Changed o w₃ → post (.ok ()) w₃) :
    (t.update scope m).Withstands (o.among own) post w := by
  have ha := hu.served.answers
  cases t with
  | standard backend limit =>
    exact .of_writes ((itemsCall_single _ _ _).bind_pure _)
      (fun w₁ h₁ => putItem_writes backend (h₁.answers ha) (h₁.sound hs).distinct (hm w₁ h₁)) h
  | lazy slot backend auth limit =>
    refine lazy_withstands hu fun w₁ h₁ => .of_writes ((itemsCall_single _ _ _).bind_pure _)
      (fun w₂ h₂ => ?_) fun w₂ w₃ h₂ => h w₂ w₃ (h₁.trans h₂)
    have h₀ := h₁.trans h₂
    exact putItem_writes backend (h₀.answers ha) (h₀.sound hs).distinct (hm w₂ h₀)
  | connect client =>
    cases client with
    | vault =>
      exact .of_writes ((gatewayCall_single _ _).bind_pure _)
        (fun w₁ h₁ =>
          updateGatewayItem_writes .vault (h₁.answers ha) (h₁.sound hs).distinct (hm w₁ h₁)) h
    | http c => exact absurd hu.works id

theorem delete_withstands {itemId : String} (hu : t.Undisturbed w.conditions)
    (hi : ∀ w₁, w.Changed o w₁ →
      ∃ i ∈ w₁.vault.items, MemoryVault.place i = (scope.vaultId, itemId))
    (h : ∀ w₁ w₂, w.Changed o w₁ →
      w₁.Wrote .delete (w₁.vault.items.filter (!MemoryVault.isAt scope.vaultId itemId ·))
        w₁.vault.drawn w₂ →
      w₁.Changed own w₂ ∧ ∀ w₃, w₂.Changed o w₃ → post (.ok ()) w₃) :
    (t.delete scope itemId).Withstands (o.among own) post w := by
  have ha := hu.served.answers
  cases t with
  | standard backend limit =>
    exact .of_writes (itemsCall_single _ _ _)
      (fun w₁ h₁ => deleteItem_writes (h₁.answers ha) (hi w₁ h₁)) h
  | lazy slot backend auth limit =>
    exact lazy_withstands hu fun w₁ h₁ => .of_writes (itemsCall_single _ _ _)
      (fun w₂ h₂ => deleteItem_writes (h₂.answers (h₁.answers ha)) (hi w₂ (h₁.trans h₂)))
      fun w₂ w₃ h₂ => h w₂ w₃ (h₁.trans h₂)
  | connect client =>
    cases client with
    | vault =>
      exact .of_writes (gatewayCall_single _ _)
        (fun w₁ h₁ => deleteGatewayItem_writes (h₁.answers ha) (hi w₁ h₁)) h
    | http c => exact absurd hu.works id

end Transport

end Writing

namespace MemoryVault

variable {v : MemoryVault} {scope : Scope} {key : String} {m : ManagedItem}

theorem title_of_place (hd : v.Distinct) (hl : v.lookup scope key = .ok m) {i : VaultItem}
    (hi : i ∈ v.items) (hp : place i = (scope.vaultId, m.id)) : i.title = scope.encodeTitle key :=
  (Scope.describes_of_own? (own?_of_place hd hl hi hp)).title.symm.trans
    (Scope.mem_of_findByKey hl).2

end MemoryVault

namespace Keyring

variable {k : Keyring} {o : Touch} {w w₁ w₂ w₃ : World} {item : Item} {key : String}
  {m : ManagedItem}

theorem Fate.of_create (hl : w.vault.lookup k.scope item.key = .error .keyNotFound)
    (ho : o.Spares (k.scope.encodeTitle item.key)) (h₁ : w.Changed o w₁)
    (h₂ : w₁.Wrote .create
      (w₁.vault.items ++
        [k.scope.created w₁.vault.drawn w₁.clock (k.scope.encodeTitle item.key)
          (Payload.write item)])
      (w₁.vault.drawn + 2) w₂)
    (h₃ : w₂.Changed o w₃) :
    k.Fate o w (.set item) (k.scope.encodeTitle item.key) (.ok .done) w₃ where
  answer := .inl (by simp only [answerFrom, hl])
  done := by
    intro a _
    refine ⟨w₁.vault.drawn, w₁.clock, h₁.drawn, ?_⟩
    have hl' : ({ w.vault with drawn := w₁.vault.drawn } : MemoryVault).lookup k.scope item.key =
      .error .keyNotFound := hl
    simp only [itemsAfter, hl']
    rw [h₃.titled_eq ho, MemoryVault.titled, h₂.items, List.filter_append, List.filter_append]
    exact congrArg (· ++ _) (h₁.titled_eq ho)
  failed := fun _ he => nomatch he

theorem Fate.of_update (hl : w.vault.lookup k.scope item.key = .ok m) (hs : w.vault.Sound)
    (ho : o.Spares (k.scope.encodeTitle item.key)) (h₁ : w.Changed o w₁) (now : Timestamp)
    (h₂ : w₁.Wrote .update
      (MemoryVault.rewrite
        (k.transport.written k.scope w₁.vault.drawn (m.revalued now (Payload.write item)))
        w₁.vault.items)
      (MemoryVault.withFieldIds w₁.vault.drawn [(m.revalued now (Payload.write item)).field]).2 w₂)
    (h₃ : w₂.Changed o w₃) :
    k.Fate o w (.set item) (k.scope.encodeTitle item.key) (.ok .done) w₃ where
  answer := .inl (by simp only [answerFrom, hl])
  done := by
    intro a _
    refine ⟨w₁.vault.drawn, now, h₁.drawn, ?_⟩
    have hl' : ({ w.vault with drawn := w₁.vault.drawn } : MemoryVault).lookup k.scope item.key =
      .ok m := hl
    have ht := (Scope.mem_of_findByKey hl).2
    have htitle (w' : World) (h' : w.Changed o w') (i : VaultItem) (hi : i ∈ w'.vault.items)
        (hp : MemoryVault.place i = (k.scope.vaultId, m.id)) : i.title = m.title :=
      (MemoryVault.title_of_place (h'.sound hs).distinct ((h'.lookup_eq ho).trans hl) hi hp).trans
        ht.symm
    simp only [itemsAfter, hl']
    rw [h₃.titled_eq ho, MemoryVault.titled, h₂.items,
      MemoryVault.filter_rewrite (· == k.scope.encodeTitle item.key) (htitle w₁ h₁),
      MemoryVault.filter_rewrite (· == k.scope.encodeTitle item.key) (htitle w (.refl w))]
    exact congrArg _ (h₁.titled_eq ho)
  failed := fun _ he => nomatch he

theorem Fate.of_delete (hl : w.vault.lookup k.scope key = .ok m)
    (ho : o.Spares (k.scope.encodeTitle key)) (h₁ : w.Changed o w₁)
    (h₂ : w₁.Wrote .delete (w₁.vault.items.filter (!MemoryVault.isAt k.scope.vaultId m.id ·))
      w₁.vault.drawn w₂)
    (h₃ : w₂.Changed o w₃) :
    k.Fate o w (.remove key) (k.scope.encodeTitle key) (.ok .done) w₃ where
  answer := .inl (by simp only [answerFrom, hl]; rfl)
  done := by
    intro a _
    refine ⟨w₁.vault.drawn, w₁.clock, h₁.drawn, ?_⟩
    have hl' : ({ w.vault with drawn := w₁.vault.drawn } : MemoryVault).lookup k.scope key =
      .ok m := hl
    simp only [itemsAfter, hl']
    rw [h₃.titled_eq ho, MemoryVault.titled, h₂.items, List.filter_comm]
    refine Eq.trans ?_ (List.filter_comm _ _ _)
    exact congrArg _ (h₁.titled_eq ho)
  failed := fun _ he => nomatch he

theorem Fate.of_error {operation : Operation} {title : String} {e : KeyringError}
    (hr : k.Yields o w (k.answerFrom w.vault operation) (.error e)) (hw : w.Changed o w₁)
    (ho : o.Spares title) : k.Fate o w operation title (.error e) w₁ :=
  ⟨hr, fun _ ha => (nomatch ha), fun _ _ => hw.titled_eq ho⟩

theorem answerFrom_set (k : Keyring) (v : MemoryVault) (item : Item) :
    k.answerFrom v (.set item) =
      (existing (v.lookup k.scope item.key)).map fun _ => Answer.done := by
  simp only [answerFrom]
  cases v.lookup k.scope item.key with
  | ok m => rfl
  | error e => cases e <;> rfl

theorem found_of_yields {found : Option ManagedItem}
    (h : k.Yields o w (existing (w.vault.lookup k.scope key)) (.ok found)) :
    (∃ m, found = some m ∧ w.vault.lookup k.scope key = .ok m) ∨
      found = none ∧ w.vault.lookup k.scope key = .error .keyNotFound := by
  obtain h | ⟨_, e, he, _⟩ := h
  · cases found with
    | some m => exact .inl ⟨m, rfl, ok_of_existing h.symm⟩
    | none => exact .inr ⟨rfl, keyNotFound_of_existing h.symm⟩
  · cases he

theorem reading_withstands {α : Type} {a : Action α} {f : α → Answer} {operation : Operation}
    {title : String} {expected : Except KeyringError α} (own : Touch)
    (ha : a.ReadsAmong o w (k.Yields o w expected)) (hk : k.perform operation = f <$> a)
    (hr : k.answerFrom w.vault operation = expected.map f)
    (hi : ∀ now, k.itemsAfter w.vault now operation = w.vault.items) (ho : o.Spares title) :
    (k.perform operation).Withstands (o.among own) (k.Fate o w operation title) w := by
  rw [hk]
  refine .map ((ha own).mono fun r w₁ h₁ => .of_read ?_ h₁.1 ho fun _ _ => hi)
  rw [hr]
  exact h₁.2.through (f := Except.map f) fun _ _ => rfl

section Operations

variable (hu : k.transport.Undisturbed w.conditions) (hs : w.vault.Sound)
include hu hs

theorem set_withstands (ho : o.Spares (k.scope.encodeTitle item.key)) :
    (k.set item).Withstands (o.among ((Operation.set item).touch k.scope))
      (fun r => k.Fate o w (.set item) (k.scope.encodeTitle item.key)
        (r.map fun _ => Answer.done)) w := by
  refine (find?_readsAmong hu hs ho).bind_withstands (fun found hfound w₁ h₁ => ?_)
    fun e he w₁ h₁ => ?_
  · obtain ⟨m, rfl, hl⟩ | ⟨rfl, hl⟩ := found_of_yields hfound
    · refine Action.ReadsAmong.log_bind_withstands fun w₂ h₂ => ?_
      refine Action.ReadsAmong.now_bind_withstands fun now w₃ h₃ => ?_
      have h₀ := (h₁.trans h₂).trans h₃
      have hl₄ (w₄ : World) (h₄ : w₃.Changed o w₄) : w₄.vault.lookup k.scope item.key = .ok m :=
        ((h₀.trans h₄).lookup_eq ho).trans hl
      refine Transport.update_withstands (m := m.revalued now (Payload.write item))
        (h₀.undisturbed hu) (h₀.sound hs)
        (fun w₄ h₄ => Transport.rewritable_of_lookup (hl₄ w₄ h₄) now _)
        fun w₄ w₅ h₄ hw => ⟨?_, fun w₆ h₆ => .of_update hl hs ho (h₀.trans h₄) now hw h₆⟩
      have ht : m.title = k.scope.encodeTitle item.key := (Scope.mem_of_findByKey hl).2
      rw [Operation.touch, ← ht]
      refine .of_rewrite hw (fun i hi hp => ?_) (MemoryVault.le_withFieldIds _ _)
      have hd₄ := ((h₀.trans h₄).sound hs).distinct
      exact (MemoryVault.title_of_place hd₄ (hl₄ w₄ h₄) hi hp).trans ht.symm
    · refine Action.ReadsAmong.log_bind_withstands fun w₂ h₂ => ?_
      have h₀ := h₁.trans h₂
      refine Transport.create_withstands (h₀.undisturbed hu) fun w₃ w₄ h₃ hw =>
        ⟨?_, fun w₅ h₅ => ?_⟩
      · exact .of_create hw rfl (by omega)
      · exact .of_create hl ho (h₀.trans h₃) hw h₅
  · refine .of_error ?_ h₁ ho
    rw [answerFrom_set]
    exact he.through (f := Except.map fun _ => Answer.done) fun _ _ => rfl

theorem remove_withstands (ho : o.Spares (k.scope.encodeTitle key)) :
    (k.remove key).Withstands (o.among ((Operation.remove key).touch k.scope))
      (fun r => k.Fate o w (.remove key) (k.scope.encodeTitle key) (r.map fun _ => Answer.done))
      w := by
  refine (find_readsAmong hu hs ho).bind_withstands (fun m hm w₁ h₁ => ?_) fun e he w₁ h₁ => ?_
  · have hl : w.vault.lookup k.scope key = .ok m := by
      obtain hm | ⟨_, e, he, _⟩ := hm
      · exact hm.symm
      · cases he
    refine Action.ReadsAmong.log_bind_withstands fun w₂ h₂ => ?_
    have h₀ := h₁.trans h₂
    have hl₃ (w₃ : World) (h₃ : w₂.Changed o w₃) : w₃.vault.lookup k.scope key = .ok m :=
      ((h₀.trans h₃).lookup_eq ho).trans hl
    refine Transport.delete_withstands (h₀.undisturbed hu)
      (fun w₃ h₃ => MemoryVault.place_of_lookup (hl₃ w₃ h₃))
      fun w₃ w₄ h₃ hw => ⟨?_, fun w₅ h₅ => .of_delete hl ho (h₀.trans h₃) hw h₅⟩
    have hd₃ := ((h₀.trans h₃).sound hs).distinct
    exact .of_delete hw fun i hi hp => MemoryVault.title_of_place hd₃ (hl₃ w₃ h₃) hi hp
  · exact .of_error (he.through (f := Except.map fun _ => Answer.done) fun _ _ => rfl) h₁ ho

theorem perform_withstands {operation : Operation} (hkey : operation.key? = some key)
    (ho : o.Spares (k.scope.encodeTitle key)) :
    (k.perform operation).Withstands (o.among (operation.touch k.scope))
      (k.Fate o w operation (k.scope.encodeTitle key)) w := by
  cases operation with
  | get key' =>
    obtain rfl := Option.some.inj hkey
    exact reading_withstands _ (get_readsAmong hu hs ho) rfl rfl (fun _ => rfl) ho
  | has key' =>
    obtain rfl := Option.some.inj hkey
    exact reading_withstands _ (has_readsAmong hu hs ho) rfl rfl (fun _ => rfl) ho
  | getMetadata key' =>
    obtain rfl := Option.some.inj hkey
    exact reading_withstands _ (getMetadata_readsAmong hu hs ho) rfl rfl (fun _ => rfl) ho
  | set item =>
    obtain rfl := Option.some.inj hkey
    exact .map (set_withstands hu hs ho)
  | remove key' =>
    obtain rfl := Option.some.inj hkey
    exact .map (remove_withstands hu hs ho)
  | keys => cases hkey

end Operations

end Keyring

end VaultRing
