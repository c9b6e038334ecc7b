import VaultRing.Proofs.VaultAccess
import VaultRing.Proofs.VaultStore

namespace VaultRing

namespace GatewayItem

@[simp] theorem toVaultItem_ofVaultItem (item : VaultItem) :
    (ofVaultItem item).toVaultItem = item := by
  have hfields : (item.fields.map GatewayField.ofField).map GatewayField.toField = item.fields := by
    rw [List.map_map]
    exact List.map_id item.fields
  have hstate : (if item.state = .active then none else some item.state).getD .active =
      item.state := by
    split
    · rename_i h
      exact h.symm
    · rfl
  unfold toVaultItem ofVaultItem
  simp only [hfields, hstate]

end GatewayItem

namespace MemoryVault

def managedItems (v : MemoryVault) (scope : Scope) : List ManagedItem :=
  v.items.filterMap scope.own?

/-- A listing loses nothing if it drops only items that are not managed anyway. -/
theorem filterMap_listed {scope : Scope} {p : VaultItem → Bool} (items : List VaultItem)
    (hp : ∀ i, (scope.managed? i).isSome → p i = true) :
    (items.filter fun i => i.vaultId == scope.vaultId && p i).filterMap scope.managed? =
      items.filterMap scope.own? := by
  rw [List.filterMap_filter]
  apply List.filterMap_congr
  intro i _
  unfold Scope.own?
  cases hm : scope.managed? i with
  | none => simp
  | some m =>
    have hi : p i = true := hp i (by simp [hm])
    simp [hi]

theorem Distinct.find_listed {v : MemoryVault} (h : v.Distinct) {scope : Scope}
    {p : VaultItem → Bool} {i : VaultItem}
    (hi : i ∈ v.items.filter fun i => i.vaultId == scope.vaultId && p i) :
    v.find scope.vaultId i.id = .ok i := by
  obtain ⟨hmem, hp⟩ := List.mem_filter.mp hi
  have hv : i.vaultId = scope.vaultId := by
    simpa using (Bool.and_eq_true_iff.mp hp).1
  rw [← hv]
  exact h.find_eq hmem

end MemoryVault

theorem World.SameStore.find_eq {w w' : World} (h : w.SameStore w') (vaultId itemId : String) :
    w'.vault.find vaultId itemId = w.vault.find vaultId itemId := by
  unfold MemoryVault.find
  rw [h.items]

theorem World.SameStore.distinct {w w' : World} (h : w.SameStore w') (hd : w.vault.Distinct) :
    w'.vault.Distinct := by
  unfold MemoryVault.Distinct
  rw [h.items]
  exact hd

theorem World.SameStore.managedItems_eq {w w' : World} (h : w.SameStore w') (scope : Scope) :
    w'.vault.managedItems scope = w.vault.managedItems scope := by
  unfold MemoryVault.managedItems
  rw [h.items]

/-- A listing of the active items leaves out none that is managed. -/
theorem Scope.accepts_of_managed? {scope : Scope} {i : VaultItem}
    (h : (scope.managed? i).isSome) : ListFilter.activeOnly.accepts i.state = true := by
  obtain ⟨m, hm⟩ := Option.isSome_iff_exists.mp h
  obtain ⟨f, hfield, _⟩ := Scope.managed?_eq_some_iff.mp hm
  rw [hfield.active]
  rfl

theorem Scope.filterMap_managed?_cons (scope : Scope) (i : VaultItem) (items : List VaultItem) :
    (i :: items).filterMap scope.managed? =
      (scope.managed? i).toList ++ items.filterMap scope.managed? := by
  cases hm : scope.managed? i <;> simp [hm]

namespace Transport

section Sdk

variable {limit : Duration} {scope : Scope}

theorem itemsCall_readOnly {context : String} {call : ItemsCall}
    (h : call.kind.isWrite = false) : (itemsCall limit context call).ReadOnly :=
  .orFail _ (.request (by simp [Request.isRead, h]))

theorem fetchItems_readOnly (overviews : List Overview) :
    (fetchItems limit scope overviews).ReadOnly := by
  induction overviews with
  | nil => exact .pure []
  | cons o overviews ih =>
    unfold fetchItems
    split
    · exact ih
    · exact .bind (itemsCall_readOnly rfl) fun item => .bind ih fun others => .pure _

theorem itemsCall_run (context : String) (call : ItemsCall) (w : World) :
    Action.run (itemsCall limit context call) w =
      ((w.vault.answerItems w.clock (some limit) call).1.mapError (.transport context),
        { w with vault := (w.vault.answerItems w.clock (some limit) call).2 }) :=
  Action.run_orFail _ _ w

theorem itemsCall_served {w : World} (h : w.vault.Answers (some limit)) (context : String)
    (call : ItemsCall) :
    Action.run (itemsCall limit context call) w =
      (((w.vault.counted call.kind).itemsEffect w.clock call).1.mapError (.transport context),
        { w with vault := ((w.vault.counted call.kind).itemsEffect w.clock call).2 }) := by
  rw [itemsCall_run, MemoryVault.answerItems_of_answers h]

theorem itemsCall_fails {w : World} (h : ¬ w.vault.Answers (some limit)) (context : String)
    (call : ItemsCall) :
    ∃ e, e.isOutside = true ∧ Action.run (itemsCall limit context call) w =
      (.error e, { w with vault := w.vault.counted call.kind }) := by
  obtain ⟨source, hs⟩ := MemoryVault.answerItems_of_not_answers h w.clock call
  exact ⟨.transport context source, rfl, by rw [itemsCall_run, hs]; rfl⟩

theorem fetchItems_reads (items : List VaultItem) {w : World} (ha : w.vault.Answers (some limit))
    (hf : ∀ i ∈ items, w.vault.find scope.vaultId i.id = .ok i) :
    (fetchItems limit scope (items.map VaultItem.overview)).Reads w
      (.ok (items.filterMap scope.managed?)) := by
  induction items generalizing w with
  | nil => exact .pure [] w
  | cons i items ih =>
    simp only [List.map_cons]
    unfold fetchItems
    change Action.Reads (if !scope.isCandidate i.tags i.category i.state then _ else _) w _
    by_cases hc : scope.isCandidate i.tags i.category i.state = true
    · have hi := hf i (by simp)
      have hget : (itemsCall limit (Context.get i.overview.id scope.vaultId)
          (.get scope.vaultId i.overview.id)).Reads w (.ok i) := by
        refine ⟨{ w with vault := w.vault.counted .get }, ?_, w.onlyRead_counted rfl⟩
        rw [itemsCall_served ha]
        change ((w.vault.find scope.vaultId i.id).mapError _, _) = _
        rw [hi]
        rfl
      rw [if_neg (by simp [hc])]
      refine hget.bind_ok fun w₁ h₁ => ?_
      have hf₁ : ∀ j ∈ items, w₁.vault.find scope.vaultId j.id = .ok j :=
        fun j hj => (h₁.find_eq _ _).trans (hf j (by simp [hj]))
      refine (ih (h₁.answers ha) hf₁).bind_ok fun w₂ _ => ?_
      rw [Scope.filterMap_managed?_cons]
      exact .pure _ w₂
    · have hc' : scope.isCandidate i.tags i.category i.state = false := by simpa using hc
      rw [if_pos (by simp [hc']),
        List.filterMap_cons_none (Scope.managed?_eq_none_of_not_candidate hc')]
      exact ih ha fun j hj => hf j (by simp [hj])

theorem listItems_readOnly : (listItems limit scope).ReadOnly :=
  .bind (itemsCall_readOnly rfl) fun overviews => fetchItems_readOnly overviews

theorem listItems_reads {w : World} (ha : w.vault.Answers (some limit)) (hd : w.vault.Distinct) :
    (listItems limit scope).Reads w (.ok (w.vault.managedItems scope)) := by
  let listed := w.vault.items.filter fun i =>
    i.vaultId == scope.vaultId && ListFilter.activeOnly.accepts i.state
  have hlist : (itemsCall limit (Context.list scope.vaultId)
      (.list scope.vaultId .activeOnly)).Reads w (.ok (listed.map VaultItem.overview)) := by
    refine ⟨{ w with vault := w.vault.counted .list }, ?_, w.onlyRead_counted rfl⟩
    rw [itemsCall_served ha]
    rfl
  refine hlist.bind_ok fun w₁ h₁ => ?_
  have hf : ∀ i ∈ listed, w₁.vault.find scope.vaultId i.id = .ok i :=
    fun i hi => (h₁.find_eq _ _).trans (hd.find_listed hi)
  have hfetch := fetchItems_reads listed (h₁.answers ha) hf
  rwa [MemoryVault.filterMap_listed w.vault.items fun _ => Scope.accepts_of_managed?] at hfetch

end Sdk

section Gateway

variable {scope : Scope}

theorem httpSend_readOnly (c : HttpClient) (r : Http.Request) : (c.send r).ReadOnly := by
  unfold HttpClient.send
  split
  · exact .pure _
  split
  · exact .pure _
  · refine .bind (.request rfl) fun response => ?_
    cases response with
    | none => exact .pure _
    | some response =>
      dsimp only
      split
      · exact .pure _
      · exact .bind (.request rfl) fun _ => .pure _

theorem httpCall_readOnly (c : HttpClient) (call : GatewayCall) : (c.call call).ReadOnly := by
  cases call <;> exact .bind (httpSend_readOnly c _) fun _ => .pure _

theorem gatewayCall_http_readOnly (c : HttpClient) (context : String) (call : GatewayCall) :
    (gatewayCall (.http c) context call).ReadOnly := .orFail _ (httpCall_readOnly c call)

theorem gatewayCall_readOnly (client : GatewayClient) (context : String) {call : GatewayCall}
    (h : call.kind.isWrite = false) : (gatewayCall client context call).ReadOnly := by
  cases client with
  | vault => exact .orFail _ (.request (by simp [Request.isRead, h]))
  | http c => exact gatewayCall_http_readOnly c context call

theorem fetchGatewayItems_readOnly (client : GatewayClient) (overviews : List GatewayItem) :
    (fetchGatewayItems client scope overviews).ReadOnly := by
  induction overviews with
  | nil => exact .pure []
  | cons o overviews ih =>
    unfold fetchGatewayItems
    split
    · exact ih
    · exact .bind (gatewayCall_readOnly client _ rfl) fun item => .bind ih fun others => .pure _

theorem listGatewayItems_readOnly (client : GatewayClient) (title : Option String) :
    (listGatewayItems client scope title).ReadOnly := by
  unfold listGatewayItems
  cases title with
  | some title =>
    exact .bind (gatewayCall_readOnly client _ rfl) fun _ => fetchGatewayItems_readOnly client _
  | none =>
    exact .bind (gatewayCall_readOnly client _ rfl) fun _ => fetchGatewayItems_readOnly client _

theorem gatewayCall_served {w : World} (h : w.vault.Answers none) (context : String)
    (call : GatewayCall) :
    Action.run (gatewayCall .vault context call) w =
      (((w.vault.counted call.kind).gatewayEffect w.clock call).1.mapError (.transport context),
        { w with vault := ((w.vault.counted call.kind).gatewayEffect w.clock call).2 }) := by
  refine (Action.run_orFail _ _ w).trans ?_
  change ((w.vault.answerGateway w.clock call).1.mapError _,
    { w with vault := (w.vault.answerGateway w.clock call).2 }) = _
  rw [MemoryVault.answerGateway_of_answers h]

theorem gatewayCall_fails {w : World} (h : ¬ w.vault.Answers none) (context : String)
    (call : GatewayCall) :
    ∃ e, e.isOutside = true ∧ Action.run (gatewayCall .vault context call) w =
      (.error e, { w with vault := w.vault.counted call.kind }) := by
  obtain ⟨source, hs⟩ := MemoryVault.answerGateway_of_not_answers h w.clock call
  refine ⟨.transport context source, rfl, (Action.run_orFail _ _ w).trans ?_⟩
  change ((w.vault.answerGateway w.clock call).1.mapError _,
    { w with vault := (w.vault.answerGateway w.clock call).2 }) = _
  rw [hs]
  rfl

theorem fetchGatewayItems_reads (items : List VaultItem) {w : World}
    (ha : w.vault.Answers none)
    (hf : ∀ i ∈ items, w.vault.find scope.vaultId i.id = .ok i) :
    (fetchGatewayItems .vault scope
        (items.map fun i => (GatewayItem.ofVaultItem i).overview)).Reads w
      (.ok (items.filterMap scope.managed?)) := by
  induction items generalizing w with
  | nil => exact .pure [] w
  | cons i items ih =>
    have hstate : (GatewayItem.ofVaultItem i).overview.state.getD .active = i.state :=
      congrArg VaultItem.state (GatewayItem.toVaultItem_ofVaultItem i)
    simp only [List.map_cons]
    unfold fetchGatewayItems
    rw [hstate]
    change Action.Reads (if !scope.isCandidate i.tags i.category i.state then _ else _) w _
    by_cases hc : scope.isCandidate i.tags i.category i.state = true
    · have hi := hf i (by simp)
      have hget : (gatewayCall .vault (Context.get i.id scope.vaultId)
          (.get i.id scope.vaultId)).Reads w (.ok (GatewayItem.ofVaultItem i)) := by
        refine ⟨{ w with vault := w.vault.counted .get }, ?_, w.onlyRead_counted rfl⟩
        rw [gatewayCall_served ha]
        change (((w.vault.find scope.vaultId i.id).map _).mapError _, _) = _
        rw [hi]
        rfl
      rw [if_neg (by simp [hc])]
      refine hget.bind_ok fun w₁ h₁ => ?_
      have hf₁ : ∀ j ∈ items, w₁.vault.find scope.vaultId j.id = .ok j :=
        fun j hj => (h₁.find_eq _ _).trans (hf j (by simp [hj]))
      refine (ih (h₁.answers ha) hf₁).bind_ok fun w₂ _ => ?_
      rw [Scope.filterMap_managed?_cons, GatewayItem.toVaultItem_ofVaultItem]
      exact .pure _ w₂
    · have hc' : scope.isCandidate i.tags i.category i.state = false := by simpa using hc
      rw [if_pos (by simp [hc']),
        List.filterMap_cons_none (Scope.managed?_eq_none_of_not_candidate hc')]
      exact ih ha fun j hj => hf j (by simp [hj])

theorem filterMap_titled (items : List VaultItem) (title : Option String) :
    (items.filter fun i => i.vaultId == scope.vaultId && title.all (· == i.title)).filterMap
        scope.managed? =
      (items.filterMap scope.own?).filter fun m => title.all (· == m.title) := by
  rw [List.filterMap_filter, List.filter_filterMap]
  apply List.filterMap_congr
  intro i _
  cases hm : scope.own? i with
  | none =>
    by_cases hv : i.vaultId = scope.vaultId
    · have hnone : scope.managed? i = none := by simpa [Scope.own?, hv] using hm
      simp [hnone]
    · simp [hv]
  | some m =>
    have hd := Scope.describes_of_own? hm
    have hmanaged : scope.managed? i = some m := by simpa [Scope.own?, hd.vaultId] using hm
    simp [hd.vaultId, hmanaged, hd.title, Option.filter_some]

theorem fetchListed_reads {w w₁ : World} (ha : w.vault.Answers none) (hd : w.vault.Distinct)
    (title : Option String) (h₁ : w.OnlyRead w₁) :
    (fetchGatewayItems .vault scope (w.vault.gatewayOverviews scope.vaultId title)).Reads w₁
      (.ok ((w.vault.managedItems scope).filter fun m => title.all (· == m.title))) := by
  let listed := w.vault.items.filter fun i =>
    i.vaultId == scope.vaultId && title.all (· == i.title)
  have hf : ∀ i ∈ listed, w₁.vault.find scope.vaultId i.id = .ok i :=
    fun i hi => (h₁.find_eq _ _).trans (hd.find_listed hi)
  have hfetch := fetchGatewayItems_reads listed (h₁.answers ha) hf
  rwa [filterMap_titled] at hfetch

theorem listGatewayItems_reads {w : World} (ha : w.vault.Answers none) (hd : w.vault.Distinct)
    (title : Option String) :
    (listGatewayItems .vault scope title).Reads w
      (.ok ((w.vault.managedItems scope).filter fun m => title.all (· == m.title))) := by
  unfold listGatewayItems
  cases title with
  | some title =>
    have hlist : (gatewayCall .vault (Context.overviewsByTitle title scope.vaultId)
        (.listByTitle title scope.vaultId)).Reads w
          (.ok (w.vault.gatewayOverviews scope.vaultId (some title))) :=
      ⟨{ w with vault := w.vault.counted .listByTitle }, gatewayCall_served ha _ _,
        w.onlyRead_counted rfl⟩
    exact hlist.bind_ok fun w₁ h₁ => fetchListed_reads ha hd (some title) h₁
  | none =>
    have hlist : (gatewayCall .vault (Context.overviews scope.vaultId)
        (.list scope.vaultId)).Reads w (.ok (w.vault.gatewayOverviews scope.vaultId none)) :=
      ⟨{ w with vault := w.vault.counted .list }, gatewayCall_served ha _ _,
        w.onlyRead_counted rfl⟩
    exact hlist.bind_ok fun w₁ h₁ => fetchListed_reads ha hd none h₁

end Gateway

/-- What a transport lists: a gateway uses the title that it is given, an SDK client does not. -/
def listed (t : Transport) (title : Option String) (items : List ManagedItem) : List ManagedItem :=
  match t with
  | .standard .. | .lazy .. => items
  | .connect _ => items.filter fun m => title.all (· == m.title)

theorem listed_none (t : Transport) (items : List ManagedItem) : t.listed none items = items := by
  cases t <;> simp [listed]

theorem filter_titled_twice (title : String) (items : List ManagedItem) :
    (items.filter fun m => title == m.title).filter (·.title == title) =
      items.filter (·.title == title) := by
  rw [List.filter_filter]
  apply List.filter_congr
  intro m _
  by_cases hm : m.title = title <;> simp [hm]

/-- Looking for a key, it makes no difference whether the title has been used already. -/
theorem findByKey_listed (t : Transport) (scope : Scope) (key : String)
    (items : List ManagedItem) :
    scope.findByKey (t.listed (some (scope.encodeTitle key)) items) key =
      scope.findByKey items key := by
  cases t with
  | standard backend limit | lazy slot backend auth limit => rfl
  | connect client =>
    simp only [Scope.findByKey, listed, Option.all_some, filter_titled_twice]

theorem managedItems_readOnly (t : Transport) (scope : Scope) (title : Option String) :
    (t.managedItems scope title).ReadOnly := by
  cases t with
  | standard backend limit => exact listItems_readOnly
  | lazy slot backend auth limit =>
    exact .bind (ensureClient_readOnly _ _ _) fun _ => listItems_readOnly
  | connect client => exact listGatewayItems_readOnly client title

theorem managedItems_reads {t : Transport} {w : World} (h : t.Served w) (hd : w.vault.Distinct)
    (scope : Scope) (title : Option String) :
    (t.managedItems scope title).Reads w
      (.ok (t.listed title (w.vault.managedItems scope))) := by
  cases t with
  | standard backend limit => exact listItems_reads h.answers hd
  | lazy slot backend auth limit =>
    rcases ensureClient_reads slot backend auth limit w with ⟨_, hc⟩ | ⟨hn, _⟩
    · refine hc.bind_ok fun w₁ h₁ => ?_
      have hlist : (listItems limit scope).Reads w₁ _ :=
        listItems_reads (h₁.answers h.answers) (h₁.distinct hd)
      rwa [h₁.managedItems_eq] at hlist
    · exact absurd h.ready hn
  | connect client =>
    cases client with
    | vault => exact listGatewayItems_reads h.answers hd title
    | http c => exact absurd h.ready id

theorem listItems_fails {limit : Duration} {w : World} (h : ¬ w.vault.Answers (some limit))
    (scope : Scope) : ∃ e, e.isOutside = true ∧ (listItems limit scope).Reads w (.error e) := by
  obtain ⟨e, ho, hr⟩ :=
    itemsCall_fails h (Context.list scope.vaultId) (.list scope.vaultId .activeOnly)
  exact ⟨e, ho, .bind_error ⟨_, hr, w.onlyRead_counted rfl⟩⟩

theorem listGatewayItems_fails {w : World} (h : ¬ w.vault.Answers none) (scope : Scope)
    (title : Option String) :
    ∃ e, e.isOutside = true ∧ (listGatewayItems .vault scope title).Reads w (.error e) := by
  cases title with
  | some title =>
    obtain ⟨e, ho, hr⟩ := gatewayCall_fails h (Context.overviewsByTitle title scope.vaultId)
      (.listByTitle title scope.vaultId)
    exact ⟨e, ho, .bind_error ⟨_, hr, w.onlyRead_counted rfl⟩⟩
  | none =>
    obtain ⟨e, ho, hr⟩ := gatewayCall_fails h (Context.overviews scope.vaultId)
      (.list scope.vaultId)
    exact ⟨e, ho, .bind_error ⟨_, hr, w.onlyRead_counted rfl⟩⟩

theorem managedItems_fails {t : Transport} {w : World} (ho : t.OverVault) (h : ¬ t.Served w)
    (scope : Scope) (title : Option String) :
    ∃ e, e.isOutside = true ∧ (t.managedItems scope title).Reads w (.error e) := by
  cases t with
  | standard backend limit => exact listItems_fails (fun ha => h ⟨trivial, ha⟩) scope
  | lazy slot backend auth limit =>
    rcases ensureClient_reads slot backend auth limit w with
      ⟨hready, w₁, hc, h₁⟩ | ⟨_, e, hoe, hc⟩
    · have hn₁ : ¬ w₁.vault.Answers (some limit) :=
        fun ha => h ⟨hready, (h₁.answers_iff _).mp ha⟩
      obtain ⟨e, hoe, hl⟩ := listItems_fails hn₁ scope
      obtain ⟨w₂, hr₂, h₂⟩ := hl
      exact ⟨e, hoe, w₂, (Action.run_bind_ok hc).trans hr₂, h₁.trans h₂⟩
    · exact ⟨e, hoe, hc.bind_error⟩
  | connect client =>
    cases client with
    | vault => exact listGatewayItems_fails (fun ha => h ⟨trivial, ha⟩) scope title
    | http c => exact absurd ho id

end Transport

end VaultRing
