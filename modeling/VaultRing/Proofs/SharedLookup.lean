import VaultRing.Proofs.Interference
import VaultRing.Proofs.TitleFrame

namespace VaultRing

variable {α β : Type}

def Touch.among (o own : Touch) : Interference where
  others := World.Changed o
  own := World.Changed own
  refl := .refl
  trans := .trans

/-- While others touch `o`, `a` only reads, and `post` holds of its result. -/
def Action.ReadsAmong (o : Touch) (a : Action α) (w : World)
    (post : Except KeyringError α → Prop) : Prop :=
  ∀ own : Touch, a.Withstands (o.among own) (fun r w' => w.Changed o w' ∧ post r) w

namespace Action.Single

theorem perform (r : Request) : Action.Single (Action.perform (Program.request r)) :=
  ⟨r, _, rfl, fun _ => ⟨_, rfl⟩⟩

theorem bind_pure {a : Action α} (ha : a.Single) (f : α → β) :
    Action.Single (a >>= fun x => pure (f x)) := by
  obtain ⟨r, next, hrun, hnext⟩ := ha
  refine ⟨r, fun answer => (next answer).bind (ExceptT.bindCont fun x => pure (f x)), ?_, ?_⟩
  · change (ExceptT.run a).bind _ = _
    rw [hrun]
    rfl
  · intro answer
    obtain ⟨result, hdone⟩ := hnext answer
    simp only [hdone]
    cases result <;> exact ⟨_, rfl⟩

end Action.Single

namespace Action.ReadsAmong

variable {o : Touch} {a : Action α} {w : World} {post : Except KeyringError α → Prop}

theorem mono {post' : Except KeyringError α → Prop} (h : a.ReadsAmong o w post)
    (hpost : ∀ r, post r → post' r) : a.ReadsAmong o w post' :=
  fun own => (h own).mono fun r _ hr => ⟨hr.1, hpost r hr.2⟩

theorem ofExcept {r : Except KeyringError α} (h : post r) :
    Action.ReadsAmong o (Action.ofExcept r) w post :=
  fun _ => .ofExcept fun _ hw => ⟨hw, h⟩

theorem pure {x : α} (h : post (.ok x)) :
    Action.ReadsAmong o (Pure.pure x : Action α) w post := fun _ => .pure fun _ hw => ⟨hw, h⟩

theorem throw {e : KeyringError} (h : post (.error e)) :
    Action.ReadsAmong o (MonadExcept.throw e : Action α) w post :=
  fun _ => .throw fun _ hw => ⟨hw, h⟩

theorem bind {f : α → Action β} {post' : Except KeyringError β → Prop}
    (h : a.ReadsAmong o w post)
    (hf : ∀ x, post (.ok x) → ∀ w', w.Changed o w' → (f x).ReadsAmong o w' post')
    (he : ∀ e, post (.error e) → post' (.error e)) :
    Action.ReadsAmong o (a >>= f) w post' := by
  intro own
  refine .bind ((h own).mono fun r w' hr => ?_)
  obtain ⟨hw, hr⟩ := hr
  cases r with
  | ok x => exact (hf x hr w' hw own).mono fun _ _ h' => ⟨hw.trans h'.1, h'.2⟩
  | error e => exact ⟨hw, he e hr⟩

theorem tryCatch {handle : KeyringError → Action α} {post' : Except KeyringError α → Prop}
    (h : a.ReadsAmong o w post) (hok : ∀ x, post (.ok x) → post' (.ok x))
    (hh : ∀ e, post (.error e) → ∀ w', w.Changed o w' → (handle e).ReadsAmong o w' post') :
    Action.ReadsAmong o (MonadExcept.tryCatch a handle) w post' := by
  intro own
  refine .tryCatch ((h own).mono fun r w' hr => ?_)
  obtain ⟨hw, hr⟩ := hr
  cases r with
  | ok x => exact ⟨hw, hok x hr⟩
  | error e => exact (hh e hr w' hw own).mono fun _ _ h' => ⟨hw.trans h'.1, h'.2⟩

theorem map {f : α → β} {post' : Except KeyringError β → Prop} (h : a.ReadsAmong o w post)
    (hpost : ∀ r, post r → post' (r.map f)) : Action.ReadsAmong o (f <$> a) w post' :=
  fun own => .map ((h own).mono fun r _ hr => ⟨hr.1, hpost r hr.2⟩)

theorem mapped (f : α → β) (h : a.ReadsAmong o w post) :
    Action.ReadsAmong o (f <$> a) w fun r => ∃ r₀, r = Except.map f r₀ ∧ post r₀ :=
  h.map fun r hr => ⟨r, rfl, hr⟩

theorem bind_pure (f : α → β) (h : a.ReadsAmong o w post) :
    Action.ReadsAmong o (a >>= fun x => Pure.pure (f x)) w fun r =>
      ∃ r₀, r = Except.map f r₀ ∧ post r₀ :=
  h.bind (fun x hx _ _ => .pure ⟨.ok x, rfl, hx⟩) fun e he => ⟨.error e, rfl, he⟩

theorem ite {c : Bool} {y : α} {e : KeyringError} {b : Action α}
    (h : post (if c then .ok y else .error e)) (hb : post (.error e) → b.ReadsAmong o w post) :
    Action.ReadsAmong o (if c then Pure.pure y else b) w post := by
  cases c with
  | true => exact pure h
  | false => exact hb h

theorem recover {b : Action β} {g : α → β} {f : Except KeyringError α → Except KeyringError β}
    {handle : KeyringError → Action β} {post : Except KeyringError β → Prop}
    (hb : b.ReadsAmong o w fun r => ∃ r₀, r = Except.map g r₀ ∧ post (f r₀))
    (hok : ∀ x, f (.ok x) = .ok (g x))
    (hh : ∀ e, post (f (.error e)) → ∀ w', w.Changed o w' → (handle e).ReadsAmong o w' post) :
    Action.ReadsAmong o (MonadExcept.tryCatch b handle) w post := by
  refine .tryCatch hb ?_ ?_
  · rintro y ⟨r₀ | x, hr, hpost⟩
    · cases hr
    · obtain rfl := Except.ok.inj hr
      exact hok x ▸ hpost
  · rintro e ⟨e' | x, hr, hpost⟩
    · obtain rfl := Except.error.inj hr
      exact hh e hpost
    · cases hr

/-- One request is answered by the world as it is at that time. -/
theorem of_single (ha : a.Single) (hr : a.ReadOnly)
    (h : ∀ w₁, w.Changed o w₁ → post (Action.run a w₁).1) : a.ReadsAmong o w post := by
  intro own
  refine .of_single ha fun w₁ h₁ => ⟨.of_sameStore (hr w₁).toSameStore, fun w₂ h₂ => ?_⟩
  exact ⟨(h₁.trans (.of_sameStore (hr w₁).toSameStore)).trans h₂, h w₁ h₁⟩

theorem bind_single {f : α → Action β} {post : Except KeyringError β → Prop} (ha : a.Single)
    (hr : a.ReadOnly)
    (hf : ∀ w₁, w.Changed o w₁ → ∀ w₂, w₁.Changed o w₂ →
      match (Action.run a w₁).1 with
      | .ok x => (f x).ReadsAmong o w₂ post
      | .error e => post (.error e)) :
    Action.ReadsAmong o (a >>= f) w post := by
  intro own
  refine .bind (.of_single ha fun w₁ h₁ => ⟨.of_sameStore (hr w₁).toSameStore, fun w₂ h₂ => ?_⟩)
  have h₁₂ : w₁.Changed o w₂ := .trans (.of_sameStore (hr w₁).toSameStore) h₂
  have hrest := hf w₁ h₁ w₂ h₁₂
  cases hres : (Action.run a w₁).1 with
  | ok x =>
    rw [hres] at hrest
    exact (hrest own).mono fun _ _ h' => ⟨(h₁.trans h₁₂).trans h'.1, h'.2⟩
  | error e =>
    rw [hres] at hrest
    exact ⟨h₁.trans h₁₂, hrest⟩

theorem bind_single_ok {f : α → Action β} {post : Except KeyringError β → Prop} (ha : a.Single)
    (hr : a.ReadOnly)
    (hf : ∀ w₁, w.Changed o w₁ → ∃ x, (Action.run a w₁).1 = .ok x ∧
      ∀ w₂, w₁.Changed o w₂ → (f x).ReadsAmong o w₂ post) :
    Action.ReadsAmong o (a >>= f) w post := by
  refine bind_single ha hr fun w₁ h₁ w₂ h₂ => ?_
  obtain ⟨x, hx, hrest⟩ := hf w₁ h₁
  rw [hx]
  exact hrest w₂ h₂

theorem log_bind {level : LogLevel} {source : LogSource} {message : String}
    {f : Unit → Action α} (hf : ∀ w', w.Changed o w' → (f ()).ReadsAmong o w' post) :
    Action.ReadsAmong o (Action.log level source message >>= f) w post :=
  bind_single (.perform _) (.log _ _ _) fun _ h₁ w₂ h₂ => hf w₂ (h₁.trans h₂)

theorem bind_withstands {own : Touch} {f : α → Action β}
    {post' : Except KeyringError β → World → Prop}
    (ha : a.ReadsAmong o w post)
    (hf : ∀ x, post (.ok x) → ∀ w₁, w.Changed o w₁ → (f x).Withstands (o.among own) post' w₁)
    (he : ∀ e, post (.error e) → ∀ w₁, w.Changed o w₁ → post' (.error e) w₁) :
    Action.Withstands (o.among own) post' (a >>= f) w := by
  refine .bind ((ha own).mono fun r w₁ hr => ?_)
  obtain ⟨h₁, hr⟩ := hr
  cases r with
  | ok x => exact hf x hr w₁ h₁
  | error e => exact he e hr w₁ h₁

theorem log_bind_withstands {own : Touch} {level : LogLevel} {source : LogSource}
    {message : String} {f : Unit → Action α} {post : Except KeyringError α → World → Prop}
    (hf : ∀ w₁, w.Changed o w₁ → (f ()).Withstands (o.among own) post w₁) :
    Action.Withstands (o.among own) post (Action.log level source message >>= f) w := by
  have hlog : (Action.log level source message).ReadsAmong o w (· = .ok ()) :=
    .of_single (.perform _) (.log _ _ _) fun _ _ => rfl
  exact hlog.bind_withstands (fun _ _ w₁ h₁ => hf w₁ h₁) fun _ he => nomatch he

theorem now_bind_withstands {own : Touch} {f : Timestamp → Action α}
    {post : Except KeyringError α → World → Prop}
    (hf : ∀ now w₁, w.Changed o w₁ → (f now).Withstands (o.among own) post w₁) :
    Action.Withstands (o.among own) post (Action.perform Program.now >>= f) w := by
  have hnow : (Action.perform Program.now).ReadsAmong o w fun r => ∃ now, r = .ok now :=
    .of_single (.perform .now) (.perform (.request rfl)) fun w₁ _ => ⟨w₁.clock, rfl⟩
  exact hnow.bind_withstands (fun now _ w₁ h₁ => hf now w₁ h₁) fun _ ⟨_, he⟩ => nomatch he

end Action.ReadsAmong

section Credentials

variable {o : Touch} {w : World}

theorem TokenSource.firstSet_withstands (names : List String) (own : Touch) :
    (TokenSource.firstSet names).Withstands (o.among own)
      (fun r w' => w.Changed o w' ∧ r = names.findSome? w.environment.value?) w := by
  induction names generalizing w with
  | nil => exact fun w' hw => ⟨hw, rfl⟩
  | cons name names ih =>
    refine .bind (.of_single ⟨_, _, rfl, fun _ => ⟨_, rfl⟩⟩ fun w₁ h₁ =>
      ⟨.refl w₁, fun w₂ h₂ => ?_⟩)
    have hvalue : ((Program.lookup name).run w₁).1 = w.environment.value? name :=
      congrArg (·.environment.value? name) h₁.conditions
    have henv : w₂.environment = w.environment :=
      congrArg Conditions.environment (h₁.trans h₂).conditions
    rw [hvalue, List.findSome?_cons]
    cases w.environment.value? name with
    | some value => exact fun w₃ h₃ => ⟨(h₁.trans h₂).trans h₃, rfl⟩
    | none => exact (ih (w := w₂)).mono fun r w₃ hr => ⟨(h₁.trans h₂).trans hr.1, henv ▸ hr.2⟩

theorem TokenSource.resolve_readsAmong {s : TokenSource} (h : s.Available w.environment) :
    (s.resolve tokenPrompt).ReadsAmong o w fun r => ∃ token, r = .ok token := by
  have hset : (Action.perform (firstSet s.names)).ReadsAmong o w fun r =>
      r = .ok (s.names.findSome? w.environment.value?) := fun own =>
    .perform ((firstSet_withstands s.names own).mono fun r _ hr =>
      ⟨hr.1, congrArg Except.ok hr.2⟩)
  refine hset.bind (fun token? ht w₁ _ => ?_) fun e he => nomatch he
  obtain rfl := Except.ok.inj ht
  cases hs : s.names.findSome? w.environment.value? with
  | some token => exact .pure ⟨token, rfl⟩
  | none =>
    obtain ⟨token, ht⟩ | ⟨prompt, token, hp, ha⟩ := h
    · rw [hs] at ht
      cases ht
    · dsimp only
      rw [hp]
      refine .of_single ⟨_, _, rfl, fun _ => ⟨_, rfl⟩⟩ (.orFail _ (.request rfl)) fun w₂ _ => ?_
      change ∃ token, (prompt.ask tokenPrompt).mapError KeyringError.prompt = .ok token
      rw [ha]
      exact ⟨token, rfl⟩

theorem LazyAuth.resolve_readsAmong {auth : LazyAuth} (h : auth.Available w.environment) :
    auth.resolve.ReadsAmong o w fun r => ∃ a, r = .ok a := by
  cases auth with
  | desktop account => exact .pure ⟨_, rfl⟩
  | serviceAccount tokens =>
    refine .map (TokenSource.resolve_readsAmong h) fun r hr => ?_
    obtain ⟨token, rfl⟩ := hr
    exact ⟨_, rfl⟩

theorem Transport.connectClient_readsAmong {slot : Slot} {backend : Backend} {auth : LazyAuth}
    {limit : Duration} (h : (Transport.lazy slot backend auth limit).Undisturbed w.conditions)
    (a : ClientAuth) : (connectClient slot backend a).ReadsAmong o w (· = .ok ()) := by
  refine .bind_single (.perform _) (.perform (.request rfl)) fun w₁ h₁ w₂ _ => ?_
  have hn : w₁.connectorFailure = none := (h₁.undisturbed h).works.1
  have hc : (Action.run (Action.perform (Program.connect a integration)) w₁).1 = .ok (.ok ()) := by
    rw [Action.run_perform]
    change Except.ok (w₁.connect a integration).1 = _
    rw [World.connect_result, hn]
  rw [hc]
  exact .of_single (.perform _) (.perform (.request rfl)) fun w₃ _ => rfl

/-- Whoever builds the client meanwhile, it is there. -/
theorem Transport.ensureClient_readsAmong {slot : Slot} {backend : Backend} {auth : LazyAuth}
    {limit : Duration} (h : (Transport.lazy slot backend auth limit).Undisturbed w.conditions) :
    (ensureClient slot backend auth).ReadsAmong o w (· = .ok ()) := by
  refine .bind_single (.perform _) (.perform (.request rfl)) fun w₁ h₁ w₂ h₂ => ?_
  have hu := (h₁.trans h₂).undisturbed h
  rw [Action.run_perform]
  dsimp only
  split
  · exact .pure rfl
  · refine .bind (LazyAuth.resolve_readsAmong hu.works.2)
      (fun a _ w₃ h₃ => .log_bind fun w₄ h₄ => ?_) fun e he => nomatch he
    exact connectClient_readsAmong ((h₃.trans h₄).undisturbed hu) a

end Credentials

namespace Transport

section Fetching

variable {scope : Scope} {get : VaultItem → Action β} {read : β → VaultItem}

def fetchEach (scope : Scope) (get : VaultItem → Action β) (read : β → VaultItem) :
    List VaultItem → Action (List ManagedItem)
  | [] => pure []
  | i :: items => do
    if !scope.isCandidate i.tags i.category i.state then fetchEach scope get read items
    else
      let item ← get i
      let others ← fetchEach scope get read items
      return (scope.managed? (read item)).toList ++ others

structure Gets (scope : Scope) (limit : Option Duration) (get : VaultItem → Action β)
    (read : β → VaultItem) : Prop where
  single : ∀ i, (get i).Single
  readOnly : ∀ i, (get i).ReadOnly
  result : ∀ i w, w.vault.Answers limit → (Action.run (get i) w).1.map read =
    (w.vault.find scope.vaultId i.id).mapError (.transport (Context.get i.id scope.vaultId))

theorem itemsCall_single (limit : Duration) (context : String) (call : ItemsCall) :
    (itemsCall limit context call).Single := ⟨_, _, rfl, fun _ => ⟨_, rfl⟩⟩

theorem gatewayCall_single (context : String) (call : GatewayCall) :
    (gatewayCall .vault context call).Single := ⟨_, _, rfl, fun _ => ⟨_, rfl⟩⟩

def getItem (limit : Duration) (scope : Scope) (i : VaultItem) : Action VaultItem :=
  itemsCall limit (Context.get i.id scope.vaultId) (.get scope.vaultId i.id)

def getGatewayItem (scope : Scope) (i : VaultItem) : Action GatewayItem :=
  gatewayCall .vault (Context.get i.id scope.vaultId) (.get i.id scope.vaultId)

theorem getItem_gets (limit : Duration) (scope : Scope) :
    Gets scope (some limit) (getItem limit scope) id where
  single := fun _ => itemsCall_single _ _ _
  readOnly := fun _ => itemsCall_readOnly rfl
  result := by
    intro i w ha
    have hrun : (Action.run (getItem limit scope i) w).1 =
        (w.vault.find scope.vaultId i.id).mapError
          (.transport (Context.get i.id scope.vaultId)) :=
      congrArg Prod.fst (itemsCall_served ha _ _)
    rw [hrun]
    cases w.vault.find scope.vaultId i.id <;> rfl

theorem getGatewayItem_gets (scope : Scope) :
    Gets scope none (getGatewayItem scope) GatewayItem.toVaultItem where
  single := fun _ => gatewayCall_single _ _
  readOnly := fun _ => gatewayCall_readOnly .vault _ rfl
  result := by
    intro i w ha
    have hrun : (Action.run (getGatewayItem scope i) w).1 =
        ((w.vault.find scope.vaultId i.id).map GatewayItem.ofVaultItem).mapError
          (.transport (Context.get i.id scope.vaultId)) :=
      congrArg Prod.fst (gatewayCall_served ha _ _)
    rw [hrun]
    cases w.vault.find scope.vaultId i.id with
    | ok item => exact congrArg Except.ok (GatewayItem.toVaultItem_ofVaultItem item)
    | error e => rfl

theorem fetchItems_eq_fetchEach (limit : Duration) (scope : Scope) (items : List VaultItem) :
    fetchItems limit scope (items.map VaultItem.overview) =
      fetchEach scope (getItem limit scope) id items := by
  induction items with
  | nil => rfl
  | cons i items ih =>
    simp only [List.map_cons, fetchItems, fetchEach, ih]
    rfl

theorem fetchGatewayItems_eq_fetchEach (scope : Scope) (items : List VaultItem) :
    fetchGatewayItems .vault scope (items.map fun i => (GatewayItem.ofVaultItem i).overview) =
      fetchEach scope (getGatewayItem scope) GatewayItem.toVaultItem items := by
  induction items with
  | nil => rfl
  | cons i items ih =>
    have hstate : (GatewayItem.ofVaultItem i).overview.state.getD .active = i.state :=
      congrArg VaultItem.state (GatewayItem.toVaultItem_ofVaultItem i)
    simp only [List.map_cons, fetchGatewayItems, fetchEach, ih, hstate]
    rfl

def LostAmong (o : Touch) (scope : Scope) (items : List VaultItem) (e : KeyringError) : Prop :=
  ∃ i ∈ items, i.vaultId = scope.vaultId ∧ o.removes i.title ∧
    e = .transport (Context.get i.id scope.vaultId) (MemoryVault.notFound i.id)

/-- As far as a title goes, the managed items among some; unless one of them is lost. -/
def Fetched (o : Touch) (scope : Scope) (title : String) (items : List VaultItem) :
    Except KeyringError (List ManagedItem) → Prop
  | .ok found => found.filter (·.title == title) =
      (items.filterMap scope.managed?).filter (·.title == title)
  | .error e => LostAmong o scope items e

variable {o : Touch} {title : String} {items : List VaultItem} {i : VaultItem} {w w₁ : World}
  {limit : Option Duration}

theorem LostAmong.cons {e : KeyringError} (h : LostAmong o scope items e) :
    LostAmong o scope (i :: items) e := by
  obtain ⟨j, hj, hlost⟩ := h
  exact ⟨j, List.mem_cons_of_mem i hj, hlost⟩

theorem Fetched.skip {r : Except KeyringError (List ManagedItem)}
    (h : Fetched o scope title items r) (hi : scope.managed? i = none) :
    Fetched o scope title (i :: items) r := by
  cases r with
  | ok found => rwa [Fetched, List.filterMap_cons_none hi]
  | error e => exact LostAmong.cons h

theorem Fetched.cons {found others : List ManagedItem}
    (h : Fetched o scope title items (.ok others))
    (hi : found.filter (·.title == title) =
      (scope.managed? i).toList.filter (·.title == title)) :
    Fetched o scope title (i :: items) (.ok (found ++ others)) := by
  rw [Fetched, Scope.filterMap_managed?_cons, List.filter_append, List.filter_append, hi]
  exact congrArg _ h

theorem managed?_filter_of_ne (ht : i.title ≠ title) :
    (scope.managed? i).toList.filter (·.title == title) = [] := by
  cases hm : scope.managed? i with
  | none => rfl
  | some m =>
    obtain ⟨f, _, rfl⟩ := Scope.managed?_eq_some_iff.mp hm
    simpa [Scope.managedOf] using ht

theorem Gets.of_found (hget : Gets scope limit get read) (ha : w.vault.Answers limit)
    {j : VaultItem} (h : w.vault.find scope.vaultId i.id = .ok j) :
    ∃ x, (Action.run (get i) w).1 = .ok x ∧ read x = j := by
  have hres := hget.result i w ha
  rw [h] at hres
  cases hrun : (Action.run (get i) w).1 with
  | ok x =>
    rw [hrun] at hres
    exact ⟨x, rfl, Except.ok.inj hres⟩
  | error e =>
    rw [hrun] at hres
    cases hres

theorem Gets.of_not_found (hget : Gets scope limit get read) (ha : w.vault.Answers limit)
    {source : TransportError} (h : w.vault.find scope.vaultId i.id = .error source) :
    (Action.run (get i) w).1 = .error (.transport (Context.get i.id scope.vaultId) source) := by
  have hres := hget.result i w ha
  rw [h] at hres
  cases hrun : (Action.run (get i) w).1 with
  | ok x =>
    rw [hrun] at hres
    cases hres
  | error e =>
    rw [hrun] at hres
    exact congrArg Except.error (Except.error.inj hres)

/-- An item that bears the title is got as it was listed. Of another one nothing matters but that it
bears another title, if it is there at all. -/
theorem Gets.result_listed (hget : Gets scope limit get read) (hs : w₁.vault.Sound)
    (ho : o.Spares title) (hi : i ∈ w₁.vault.items) (hv : i.vaultId = scope.vaultId)
    (ha : w.vault.Answers limit) (hw : w₁.Changed o w) :
    (∃ x, (Action.run (get i) w).1 = .ok x ∧
        (scope.managed? (read x)).toList.filter (·.title == title) =
          (scope.managed? i).toList.filter (·.title == title)) ∨
      o.removes i.title ∧ (Action.run (get i) w).1 =
        .error (.transport (Context.get i.id scope.vaultId) (MemoryVault.notFound i.id)) := by
  by_cases ht : i.title = title
  · obtain ⟨x, hx, hread⟩ := hget.of_found ha (hv ▸ hw.find_spared hs hi (ht.symm ▸ ho))
    exact .inl ⟨x, hx, by rw [hread]⟩
  · obtain ⟨j, hj, hjt⟩ | ⟨hr, hnone⟩ := hw.find_other hs ho hi ht
    · obtain ⟨x, hx, hread⟩ := hget.of_found ha (hv ▸ hj)
      refine .inl ⟨x, hx, ?_⟩
      rw [hread, managed?_filter_of_ne hjt, managed?_filter_of_ne ht]
    · exact .inr ⟨hr, hget.of_not_found ha (hv ▸ hnone)⟩

/-- By induction over what is left to fetch; `w₁` is the world that was listed. -/
theorem fetchEach_readsAmong (hget : Gets scope limit get read) (hs : w₁.vault.Sound)
    (ho : o.Spares title) (ha : w₁.vault.Answers limit) (items : List VaultItem)
    (hi : ∀ i ∈ items, i ∈ w₁.vault.items ∧ i.vaultId = scope.vaultId) (hw : w₁.Changed o w) :
    (fetchEach scope get read items).ReadsAmong o w (Fetched o scope title items) := by
  induction items generalizing w with
  | nil => exact .pure rfl
  | cons i items ih =>
    have hrest : ∀ j ∈ items, j ∈ w₁.vault.items ∧ j.vaultId = scope.vaultId :=
      fun j hj => hi j (by simp [hj])
    obtain ⟨hmem, hv⟩ := hi i (by simp)
    unfold fetchEach
    by_cases hc : scope.isCandidate i.tags i.category i.state = true
    · rw [if_neg (by simp [hc])]
      refine .bind_single (hget.single i) (hget.readOnly i) fun w₂ h₂ w₃ h₃ => ?_
      have hw₂ := hw.trans h₂
      obtain ⟨x, hx, hread⟩ | ⟨hr, hlost⟩ :=
        hget.result_listed hs ho hmem hv (hw₂.answers ha) hw₂
      · rw [hx]
        refine .bind (ih hrest (hw₂.trans h₃)) (fun others h w₄ _ => .pure ?_) fun e h => ?_
        · exact Fetched.cons h hread
        · exact LostAmong.cons h
      · rw [hlost]
        exact ⟨i, by simp, hv, hr, rfl⟩
    · have hc' : scope.isCandidate i.tags i.category i.state = false := by simpa using hc
      rw [if_pos (by simp [hc'])]
      exact (ih hrest hw).mono fun r hr => hr.skip (Scope.managed?_eq_none_of_not_candidate hc')

end Fetching

section Listing

variable {o : Touch} {w : World} {scope : Scope} {title : String}

def IsSdk : Transport → Prop
  | .standard .. | .lazy .. => True
  | .connect _ => False

def Lists (t : Transport) (o : Touch) (w : World) (scope : Scope) (title : String) :
    Except KeyringError (List ManagedItem) → Prop
  | .ok found => found.filter (·.title == title) =
      (w.vault.managedItems scope).filter (·.title == title)
  | .error e => t.IsSdk ∧ LostAmong o scope w.vault.items e

theorem LostAmong.of_changed {w₁ : World} {items : List VaultItem} {e : KeyringError}
    (h : LostAmong o scope items e) (hi : ∀ i ∈ items, i ∈ w₁.vault.items)
    (hw : w.Changed o w₁) (ho : o.Spares title) : LostAmong o scope w.vault.items e := by
  obtain ⟨i, hmem, hv, hr, he⟩ := h
  obtain hs | ⟨j, hj, hplace, ht⟩ := hw.origin i (hi i hmem)
  · exact absurd hr (ho.apart _ hs)
  · have hid : j.id = i.id := congrArg Prod.snd hplace
    have hvault : j.vaultId = i.vaultId := congrArg Prod.fst hplace
    exact ⟨j, hj, hvault.trans hv, ht ▸ hr, hid ▸ he⟩

theorem managedItems_titled_eq {w₁ : World} (hw : w.Changed o w₁) (ho : o.Spares title) :
    (w₁.vault.managedItems scope).filter (·.title == title) =
      (w.vault.managedItems scope).filter (·.title == title) := by
  rw [MemoryVault.managedItems_titled, MemoryVault.managedItems_titled, hw.titled_eq ho]

theorem Lists.of_changed {t : Transport} {w₁ : World} {r : Except KeyringError (List ManagedItem)}
    (h : t.Lists o w₁ scope title r) (hw : w.Changed o w₁) (ho : o.Spares title) :
    t.Lists o w scope title r := by
  cases r with
  | ok found => exact Eq.trans h (managedItems_titled_eq hw ho)
  | error e => exact ⟨h.1, h.2.of_changed (fun _ hi => hi) hw ho⟩

theorem listItems_readsAmong {t : Transport} (ht : t.IsSdk) {limit : Duration}
    (ha : w.vault.Answers (some limit)) (hs : w.vault.Sound) (ho : o.Spares title) :
    (listItems limit scope).ReadsAmong o w (t.Lists o w scope title) := by
  refine .bind_single_ok (itemsCall_single _ _ _) (itemsCall_readOnly rfl) fun w₁ h₁ => ?_
  let listed := w₁.vault.items.filter fun i =>
    i.vaultId == scope.vaultId && ListFilter.activeOnly.accepts i.state
  refine ⟨listed.map VaultItem.overview,
    congrArg Prod.fst (itemsCall_served (h₁.answers ha) _ _), fun w₂ h₂ => ?_⟩
  have hlisted : ∀ i ∈ listed, i ∈ w₁.vault.items ∧ i.vaultId = scope.vaultId := by
    intro i hi
    obtain ⟨hmem, hp⟩ := List.mem_filter.mp hi
    exact ⟨hmem, by simpa using (Bool.and_eq_true_iff.mp hp).1⟩
  rw [fetchItems_eq_fetchEach]
  refine (fetchEach_readsAmong (getItem_gets limit scope) (h₁.sound hs) ho (h₁.answers ha) listed
    hlisted h₂).mono fun r hr => ?_
  refine Lists.of_changed ?_ h₁ ho
  cases r with
  | ok found =>
    refine Eq.trans hr ?_
    rw [MemoryVault.filterMap_listed w₁.vault.items fun _ => Scope.accepts_of_managed?]
    rfl
  | error e =>
    obtain ⟨i, hi, hlost⟩ := hr
    exact ⟨ht, i, (hlisted i hi).1, hlost⟩

theorem listGatewayItems_readsAmong (ha : w.vault.Answers none) (hs : w.vault.Sound)
    (ho : o.Spares title) :
    (listGatewayItems .vault scope (some title)).ReadsAmong o w
      ((Transport.connect .vault).Lists o w scope title) := by
  refine .bind_single_ok (gatewayCall_single _ _) (gatewayCall_readOnly _ _ rfl) fun w₁ h₁ => ?_
  let listed := w₁.vault.items.filter fun i =>
    i.vaultId == scope.vaultId && (some title).all (· == i.title)
  refine ⟨listed.map fun i => (GatewayItem.ofVaultItem i).overview,
    congrArg Prod.fst (gatewayCall_served (h₁.answers ha) _ _), fun w₂ h₂ => ?_⟩
  have hlisted : ∀ i ∈ listed, i ∈ w₁.vault.items ∧ i.vaultId = scope.vaultId := by
    intro i hi
    obtain ⟨hmem, hp⟩ := List.mem_filter.mp hi
    exact ⟨hmem, by simpa using (Bool.and_eq_true_iff.mp hp).1⟩
  have htitled : ∀ i ∈ listed, i.title = title := by
    intro i hi
    have hp := (Bool.and_eq_true_iff.mp (List.mem_filter.mp hi).2).2
    exact (beq_iff_eq.mp hp).symm
  change (fetchGatewayItems .vault scope
    (listed.map fun i => (GatewayItem.ofVaultItem i).overview)).ReadsAmong o w₂ _
  rw [fetchGatewayItems_eq_fetchEach]
  refine (fetchEach_readsAmong (getGatewayItem_gets scope) (h₁.sound hs) ho (h₁.answers ha) listed
    hlisted h₂).mono fun r hr => ?_
  refine Lists.of_changed ?_ h₁ ho
  cases r with
  | ok found =>
    refine Eq.trans hr ?_
    rw [filterMap_titled]
    exact filter_titled_twice title (w₁.vault.managedItems scope)
  | error e =>
    obtain ⟨i, hi, -, hremoved, -⟩ := hr
    exact absurd (htitled i hi ▸ hremoved) ho.removes

theorem managedItems_readsAmong {t : Transport} (hu : t.Undisturbed w.conditions)
    (hs : w.vault.Sound) (ho : o.Spares title) :
    (t.managedItems scope (some title)).ReadsAmong o w (t.Lists o w scope title) := by
  have ha := hu.served.answers
  cases t with
  | standard backend limit =>
    exact listItems_readsAmong (t := .standard backend limit) trivial ha hs ho
  | lazy slot backend auth limit =>
    refine .bind (ensureClient_readsAmong hu) (fun _ _ w₁ h₁ => ?_) fun e he => nomatch he
    exact (listItems_readsAmong (t := .lazy slot backend auth limit) trivial (h₁.answers ha)
      (h₁.sound hs) ho).mono fun r hr => hr.of_changed h₁ ho
  | connect client =>
    cases client with
    | vault => exact listGatewayItems_readsAmong ha hs ho
    | http c => exact absurd hu.works id

end Listing

end Transport

section Find

variable {o : Touch} {w : World}

/-- The result that was to be expected; unless an SDK client has lost another item. -/
def Keyring.Yields (k : Keyring) (o : Touch) (w : World) (expected r : Except KeyringError α) :
    Prop :=
  r = expected ∨ k.transport.IsSdk ∧
    ∃ e, r = .error e ∧ Transport.LostAmong o k.scope w.vault.items e

variable {k : Keyring} {key : String}

theorem Keyring.Yields.through {f : Except KeyringError α → Except KeyringError β}
    {expected r : Except KeyringError α} (h : k.Yields o w expected r)
    (hf : ∀ e, e.isNotFound = false → f (.error e) = .error e) :
    k.Yields o w (f expected) (f r) := by
  rcases h with rfl | ⟨hsdk, e, rfl, hlost⟩
  · exact .inl rfl
  · have he : e.isNotFound = false := by
      obtain ⟨i, -, -, -, rfl⟩ := hlost
      rfl
    exact .inr ⟨hsdk, e, hf e he, hlost⟩

theorem Keyring.Yields.of_changed {w₁ : World} {expected r : Except KeyringError α}
    (h : k.Yields o w₁ expected r) (hw : w.Changed o w₁) {title : String} (ho : o.Spares title) :
    k.Yields o w expected r := by
  refine h.imp_right fun hlost => ?_
  obtain ⟨hsdk, e, he, hlost⟩ := hlost
  exact ⟨hsdk, e, he, hlost.of_changed (fun _ hi => hi) hw ho⟩

theorem Keyring.find_readsAmong (hu : k.transport.Undisturbed w.conditions) (hs : w.vault.Sound)
    (ho : o.Spares (k.scope.encodeTitle key)) :
    (k.find key).ReadsAmong o w (k.Yields o w (w.vault.lookup k.scope key)) := by
  refine .bind (Transport.managedItems_readsAmong hu hs ho) (fun items hl w₁ _ => .ofExcept ?_)
    fun e hl => .inr ⟨hl.1, e, rfl, hl.2⟩
  refine .inl ?_
  simp only [MemoryVault.lookup, Scope.findByKey]
  rw [hl]

end Find

end VaultRing
