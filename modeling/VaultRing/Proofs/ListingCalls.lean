import VaultRing.Proofs.SharedLookup

namespace VaultRing

namespace MemoryVault

/-- What a scope takes for managed among all items of its vault. -/
def scan (v : MemoryVault) (scope : Scope) : List ManagedItem :=
  (v.items.filter (·.vaultId == scope.vaultId)).filterMap scope.managed?

theorem scan_eq_managedItems (v : MemoryVault) (scope : Scope) :
    v.scan scope = v.managedItems scope := by
  have haccepts : ∀ i, (scope.managed? i).isSome → (fun _ : VaultItem => true) i = true :=
    fun _ _ => rfl
  have h := filterMap_listed v.items haccepts
  simp only [Bool.and_true] at h
  exact h

end MemoryVault

def World.fetched (w : World) (n : Nat) : World :=
  { w with vault := { w.vault with calls := { w.vault.calls with get := w.vault.calls.get + n } } }

def World.listedBy (w : World) (kind : CallKind) (n : Nat) : World :=
  World.fetched { w with vault := w.vault.counted kind } n

def Scope.takesUp (scope : Scope) (i : VaultItem) : Bool :=
  scope.isCandidate i.tags i.category i.state

def MemoryVault.candidates (v : MemoryVault) (scope : Scope) : Nat :=
  (v.overviews scope.vaultId .activeOnly).countP fun o =>
    scope.isCandidate o.tags o.category o.state

def MemoryVault.gatewayCandidates (v : MemoryVault) (scope : Scope) (title : Option String) : Nat :=
  (v.gatewayOverviews scope.vaultId title).countP fun o =>
    scope.isCandidate o.tags o.category (o.state.getD .active)

namespace Transport

variable {scope : Scope} {limit : Duration} {w : World}

section Each

variable {β : Type} (get : VaultItem → Action β) (read : β → VaultItem)

/-- By induction over what is left to fetch, `n` items having been fetched already. -/
theorem fetchEach_run (scope : Scope) (items : List VaultItem)
    (hget : ∀ i ∈ items, ∀ n, ∃ x,
      Action.run (get i) (w.fetched n) = (.ok x, w.fetched (n + 1)) ∧ read x = i) (n : Nat) :
    Action.run (fetchEach scope get read items) (w.fetched n) =
      (.ok (items.filterMap scope.managed?), w.fetched (n + items.countP scope.takesUp)) := by
  induction items generalizing n with
  | nil => rfl
  | cons i items ih =>
    obtain ⟨hi, hitems⟩ := List.forall_mem_cons.mp hget
    unfold fetchEach
    change Action.run (if !scope.takesUp i then _ else _) (w.fetched n) = _
    by_cases hc : scope.takesUp i = true
    · obtain ⟨x, hx, hread⟩ := hi n
      have hcount : n + 1 + items.countP scope.takesUp = n + (items.countP scope.takesUp + 1) := by
        omega
      rw [if_neg (by simp [hc]), Action.run_bind_ok hx, Action.run_bind_ok (ih hitems (n + 1)),
        hread, Scope.filterMap_managed?_cons, List.countP_cons_of_pos hc, hcount]
      rfl
    · have hnone : scope.managed? i = none :=
        Scope.managed?_eq_none_of_not_candidate (by simpa [Scope.takesUp] using hc)
      rw [if_pos (by simp [hc]), List.filterMap_cons_none hnone, List.countP_cons_of_neg hc]
      exact ih hitems n

end Each

section Sdk

theorem getItem_run {i : VaultItem} (ha : w.vault.Answers (some limit))
    (hi : w.vault.find scope.vaultId i.id = .ok i) (n : Nat) :
    Action.run (getItem limit scope i) (w.fetched n) = (.ok i, w.fetched (n + 1)) := by
  have han : (w.fetched n).vault.Answers (some limit) := ⟨ha.timely, ha.healthy⟩
  refine (itemsCall_served han _ _).trans ?_
  change ((w.vault.find scope.vaultId i.id).mapError _, _) = _
  rw [hi]
  rfl

theorem listItems_run (ha : w.vault.Answers (some limit)) (hd : w.vault.Distinct) :
    Action.run (listItems limit scope) w =
      (.ok (w.vault.scan scope), w.listedBy .list (w.vault.candidates scope)) := by
  have hlist : Action.run (itemsCall limit (Context.list scope.vaultId)
      (.list scope.vaultId .activeOnly)) w =
        (.ok (w.vault.overviews scope.vaultId .activeOnly),
          { w with vault := w.vault.counted .list }) := by
    rw [itemsCall_served ha]
    rfl
  let listed := w.vault.items.filter fun i =>
    i.vaultId == scope.vaultId && ListFilter.activeOnly.accepts i.state
  let after : World := { w with vault := w.vault.counted .list }
  have hafter : after.vault.Answers (some limit) := ⟨ha.timely, ha.healthy⟩
  have hget (i : VaultItem) (hi : i ∈ listed) (n : Nat) : ∃ x,
      Action.run (getItem limit scope i) (after.fetched n) = (.ok x, after.fetched (n + 1)) ∧
        id x = i :=
    ⟨i, getItem_run hafter (hd.find_listed hi) n, rfl⟩
  have hfetch := fetchEach_run (getItem limit scope) id scope listed hget 0
  rw [MemoryVault.filterMap_listed w.vault.items fun _ => Scope.accepts_of_managed?, Nat.zero_add]
    at hfetch
  rw [listItems, Action.run_bind_ok hlist, MemoryVault.scan_eq_managedItems, MemoryVault.overviews,
    fetchItems_eq_fetchEach, MemoryVault.candidates, MemoryVault.overviews, List.countP_map]
  exact hfetch

end Sdk

section Gateway

theorem state_overview (i : VaultItem) :
    (GatewayItem.ofVaultItem i).overview.state.getD .active = i.state :=
  congrArg VaultItem.state (GatewayItem.toVaultItem_ofVaultItem i)

theorem getGatewayItem_run {i : VaultItem} (ha : w.vault.Answers none)
    (hi : w.vault.find scope.vaultId i.id = .ok i) (n : Nat) :
    Action.run (getGatewayItem scope i) (w.fetched n) =
      (.ok (GatewayItem.ofVaultItem i), w.fetched (n + 1)) := by
  have han : (w.fetched n).vault.Answers none := ⟨ha.timely, ha.healthy⟩
  refine (gatewayCall_served han _ _).trans ?_
  change (((w.vault.find scope.vaultId i.id).map _).mapError _, _) = _
  rw [hi]
  rfl

theorem countP_gatewayOverviews (v : MemoryVault) (scope : Scope) (title : Option String) :
    v.gatewayCandidates scope title =
      (v.items.filter fun i => i.vaultId == scope.vaultId && title.all (· == i.title)).countP
        scope.takesUp := by
  rw [MemoryVault.gatewayCandidates, MemoryVault.gatewayOverviews, List.countP_map]
  apply List.countP_congr
  intro i _
  simp only [Function.comp_apply, state_overview]
  rfl

theorem fetchListed_run (ha : w.vault.Answers none) (hd : w.vault.Distinct) (kind : CallKind)
    (title : Option String) :
    Action.run (fetchGatewayItems .vault scope (w.vault.gatewayOverviews scope.vaultId title))
        { w with vault := w.vault.counted kind } =
      (.ok ((w.vault.scan scope).filter fun m => title.all (· == m.title)),
        w.listedBy kind (w.vault.gatewayCandidates scope title)) := by
  let listed := w.vault.items.filter fun i =>
    i.vaultId == scope.vaultId && title.all (· == i.title)
  let after : World := { w with vault := w.vault.counted kind }
  have hafter : after.vault.Answers none := ⟨ha.timely, ha.healthy⟩
  have hget (i : VaultItem) (hi : i ∈ listed) (n : Nat) : ∃ x,
      Action.run (getGatewayItem scope i) (after.fetched n) = (.ok x, after.fetched (n + 1)) ∧
        x.toVaultItem = i :=
    ⟨_, getGatewayItem_run hafter (hd.find_listed hi) n,
      GatewayItem.toVaultItem_ofVaultItem i⟩
  have hfetch :=
    fetchEach_run (getGatewayItem scope) GatewayItem.toVaultItem scope listed hget 0
  rw [filterMap_titled, Nat.zero_add] at hfetch
  rw [countP_gatewayOverviews, MemoryVault.scan_eq_managedItems, MemoryVault.gatewayOverviews,
    fetchGatewayItems_eq_fetchEach]
  exact hfetch

theorem listGatewayItems_run (ha : w.vault.Answers none) (hd : w.vault.Distinct)
    (title : Option String) :
    Action.run (listGatewayItems .vault scope title) w =
      (.ok ((w.vault.scan scope).filter fun m => title.all (· == m.title)),
        w.listedBy (if title.isSome then .listByTitle else .list)
          (w.vault.gatewayCandidates scope title)) := by
  cases title with
  | some title =>
    have hlist : Action.run (gatewayCall .vault (Context.overviewsByTitle title scope.vaultId)
        (.listByTitle title scope.vaultId)) w =
          (.ok (w.vault.gatewayOverviews scope.vaultId (some title)),
            { w with vault := w.vault.counted .listByTitle }) := gatewayCall_served ha _ _
    exact (Action.run_bind_ok hlist).trans (fetchListed_run ha hd _ _)
  | none =>
    have hlist : Action.run (gatewayCall .vault (Context.overviews scope.vaultId)
        (.list scope.vaultId)) w =
          (.ok (w.vault.gatewayOverviews scope.vaultId none),
            { w with vault := w.vault.counted .list }) := gatewayCall_served ha _ _
    exact (Action.run_bind_ok hlist).trans (fetchListed_run ha hd _ _)

end Gateway

/-- An SDK client lists the scan whatever title it is given, a gateway what of it has the title.
Either way every candidate that has been listed is fetched once, and nothing else happens to the
world. For a key it is all the same which of the two has listed, and whether the title has been
given. -/
theorem listing_is_scan (w : World) (hd : w.vault.Distinct) (hf : w.vault.failure = none)
    (hdelay : w.vault.delay = none) (scope : Scope) :
    (∀ backend limit title, Action.run ((standard backend limit).managedItems scope title) w =
      (.ok (w.vault.scan scope), w.listedBy .list (w.vault.candidates scope))) ∧
    Action.run ((connect .vault).managedItems scope none) w =
      (.ok (w.vault.scan scope), w.listedBy .list (w.vault.gatewayCandidates scope none)) ∧
    (∀ title, Action.run ((connect .vault).managedItems scope (some title)) w =
      (.ok ((w.vault.scan scope).filter (·.title == title)),
        w.listedBy .listByTitle (w.vault.gatewayCandidates scope (some title)))) ∧
    ∀ t : Transport, (∃ backend limit, t = standard backend limit) ∨ t = connect .vault →
      ∀ key, ∀ title ∈ [none, some (scope.encodeTitle key)],
        ((Action.run (t.managedItems scope title) w).1.bind fun items =>
            scope.findByKey items key) =
          scope.findByKey (w.vault.scan scope) key := by
  have hsdk (backend : Backend) (limit : Duration) (title : Option String) :
      Action.run ((standard backend limit).managedItems scope title) w =
        (.ok (w.vault.scan scope), w.listedBy .list (w.vault.candidates scope)) :=
    listItems_run (MemoryVault.answers_of_calm hf hdelay _) hd
  have hgateway (title : Option String) :
      Action.run ((connect .vault).managedItems scope title) w = _ :=
    listGatewayItems_run (MemoryVault.answers_of_calm hf hdelay _) hd title
  refine ⟨hsdk, ?_, fun title => ?_, ?_⟩
  · simpa using hgateway none
  · have hswap : (fun m : ManagedItem => title == m.title) = fun m => m.title == title := by
      funext m
      exact BEq.comm
    rw [hgateway (some title)]
    simp only [Option.all_some, Option.isSome_some, if_true, hswap]
  · rintro t (⟨backend, limit, rfl⟩ | rfl) key title htitle
    · rw [hsdk backend limit title]
      rfl
    · rw [hgateway title]
      simp only [List.mem_cons, List.not_mem_nil, or_false] at htitle
      rcases htitle with rfl | rfl
      · exact congrArg (scope.findByKey · key) (listed_none (.connect .vault) _)
      · exact findByKey_listed (.connect .vault) scope key _

section Mixed

/-- Of six items the first and the fifth are managed. The second is archived, the third has another
category, the fourth two values, and the last is in another vault. -/
def scannedVault : MemoryVault :=
  let value : Field := ⟨"f", "keyring", .concealed, "x"⟩
  let item (id : String) : VaultItem :=
    ⟨id, "kr: a", .apiCredential, "v", ["x", "keyring"], [value], .active, none⟩
  MemoryVault.ofItems
    [item "1", { item "2" with state := .archived }, { item "3" with category := .login },
      { item "4" with fields := [value, value] }, { item "5" with title := "kr: b" },
      { item "1" with vaultId := "w" }]

def scannedWorld : World := World.ofVault scannedVault Timestamp.noon

theorem mixed_listing_is_scan :
    scannedVault.Distinct ∧ scannedVault.failure = none ∧ scannedVault.delay = none ∧
      (scannedVault.scan Scope.sample).map (·.id) = ["1", "5"] ∧
      (Action.run ((standard .standard Duration.zero).managedItems Scope.sample (some "kr: a"))
        scannedWorld).2.vault.calls = ⟨1, 0, 3, 0, 0, 0⟩ ∧
      (Action.run ((connect .vault).managedItems Scope.sample (some "kr: a"))
        scannedWorld).2.vault.calls = ⟨0, 1, 2, 0, 0, 0⟩ := by
  have hd : scannedVault.Distinct := by decide
  obtain ⟨hsdk, -, htitled, -⟩ := listing_is_scan scannedWorld hd rfl rfl Scope.sample
  refine ⟨hd, rfl, rfl, by decide, ?_, ?_⟩
  · rw [hsdk]
    decide
  · rw [htitled]
    decide

end Mixed

end Transport

end VaultRing
