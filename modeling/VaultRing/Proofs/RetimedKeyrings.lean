import VaultRing.Proofs.RetimedVault

namespace VaultRing

variable {T : Timestamp → Timestamp → Prop} {d d' : Option Nat} {slots : List Slot}

def Answer.Retimed (T : Timestamp → Timestamp → Prop) (a a' : Answer) : Prop :=
  a = a' ∨ ∃ now now', T now now' ∧ a = .metadata ⟨some now⟩ ∧ a' = .metadata ⟨some now'⟩

theorem answersAlike_of_retimed {r r' : Except KeyringError Answer}
    (h : ResultsAlike (Answer.Retimed T) r r') : AnswersAlike T r r' := by
  cases h with
  | ok h =>
    obtain rfl | ⟨now, now', hnow, rfl, rfl⟩ := h
    · exact .inl rfl
    · exact .inr ⟨now, now', hnow, rfl, rfl⟩
  | error e => exact .inl rfl

section Requests

theorem Action.log_beside (level : LogLevel) (source : LogSource) (message : String) :
    (Action.log level source message).Couples (World.Beside T d d' slots) Eq
      (Action.log level source message) :=
  .perform fun _ _ hw => ⟨rfl, hw.vault, hw.clock, hw.filled, hw.filled'⟩

theorem Program.now_beside : Program.now.Couples (World.Beside T d d' slots) T Program.now :=
  fun _ _ hw => ⟨hw.clock, hw⟩

end Requests

namespace Transport

section Sdk

variable {limit : Duration} {scope : Scope} (hl : Keeps (some limit) d)
  (hl' : Keeps (some limit) d')
include hl hl'

theorem fetchItems_beside {overviews overviews' : List Overview}
    (h : List.Forall₂ (Overview.Retimed T) overviews overviews') :
    (fetchItems limit scope overviews).Couples (World.Beside T d d' slots)
      (List.Forall₂ (ManagedItem.Retimed T)) (fetchItems limit scope overviews') := by
  induction h with
  | nil => exact .pure .nil
  | @cons o o' overviews overviews' ho _ ih =>
    obtain ⟨t, -, rfl⟩ := ho
    unfold fetchItems
    split
    · exact ih
    have hget : (ItemsCall.get scope.vaultId o.id).EffectsBeside T (.get scope.vaultId o.id)
        (VaultItem.Retimed T) := fun _ _ _ _ _ _ _ hv => ⟨hv.find _ _, hv⟩
    refine (itemsCall_beside hget rfl hl hl' _).bind fun i i' hi => ?_
    exact ih.bind fun others others' hothers => .pure (List.rel_append (hi.managed? scope) hothers)

theorem listItems_beside :
    (listItems limit scope).Couples (World.Beside T d d' slots)
      (List.Forall₂ (ManagedItem.Retimed T)) (listItems limit scope) := by
  have hlist : (ItemsCall.list scope.vaultId .activeOnly).EffectsBeside T
      (.list scope.vaultId .activeOnly) (List.Forall₂ (Overview.Retimed T)) :=
    fun _ _ _ _ _ _ _ hv => ⟨.ok (hv.overviews _ _), hv⟩
  exact (itemsCall_beside hlist rfl hl hl' _).bind fun _ _ ho => fetchItems_beside hl hl' ho

theorem createItem_beside (title value : String) :
    (createItem limit scope title value).Couples (World.Beside T d d' slots) Eq
      (createItem limit scope title value) := by
  have hcreate : (ItemsCall.create (newItem scope title value)).EffectsBeside T
      (.create (newItem scope title value)) (VaultItem.Retimed T) := by
    intro _ _ now now' v v' hnow hv
    obtain ⟨hnew, hvault⟩ := hv.store hnow (.refl (MemoryVault.newItem (newItem scope title value)))
    exact ⟨.ok hnew, hvault⟩
  exact (itemsCall_beside hcreate rfl hl hl' _).bind fun _ _ _ => .pure rfl

theorem putItem_beside {m m' : ManagedItem} (hm : m.Retimed T m') :
    (putItem limit scope m).Couples (World.Beside T d d' slots) Eq (putItem limit scope m') := by
  obtain ⟨t, ht, rfl⟩ := hm
  have hput : (ItemsCall.put m.toVaultItem).EffectsBeside T
      (.put { m with updatedAt := t }.toVaultItem) (VaultItem.Retimed T) :=
    fun _ _ _ _ _ _ _ hv => hv.replace ⟨t, ht, rfl⟩
  exact (itemsCall_beside hput rfl hl hl' _).bind fun _ _ _ => .pure rfl

theorem deleteItem_beside (itemId : String) :
    (deleteItem limit scope itemId).Couples (World.Beside T d d' slots) Eq
      (deleteItem limit scope itemId) := by
  have hdelete : (ItemsCall.delete scope.vaultId itemId).EffectsBeside T
      (.delete scope.vaultId itemId) (fun r r' : Unit => r = r') :=
    fun _ _ _ _ _ _ _ hv => hv.take _ _
  exact itemsCall_beside hdelete rfl hl hl' _

end Sdk

section Gateway

variable {scope : Scope}

theorem fetchGatewayItems_beside {overviews overviews' : List GatewayItem}
    (h : List.Forall₂ (GatewayItem.Retimed T) overviews overviews') :
    (fetchGatewayItems .vault scope overviews).Couples (World.Beside T d d' slots)
      (List.Forall₂ (ManagedItem.Retimed T)) (fetchGatewayItems .vault scope overviews') := by
  induction h with
  | nil => exact .pure .nil
  | @cons o o' overviews overviews' ho _ ih =>
    obtain ⟨t, -, rfl⟩ := ho
    unfold fetchGatewayItems
    split
    · exact ih
    have hget : (GatewayCall.get o.id scope.vaultId).EffectsBeside T (.get o.id scope.vaultId)
        (GatewayItem.Retimed T) :=
      fun _ _ _ _ _ _ _ hv => ⟨(hv.find _ _).map fun _ _ hi => hi.ofVaultItem, hv⟩
    refine (gatewayCall_beside hget rfl _).bind fun i i' hi => ?_
    exact ih.bind fun others others' hothers =>
      .pure (List.rel_append (hi.toVaultItem.managed? scope) hothers)

theorem listGatewayItems_beside (title : Option String) :
    (listGatewayItems .vault scope title).Couples (World.Beside T d d' slots)
      (List.Forall₂ (ManagedItem.Retimed T)) (listGatewayItems .vault scope title) := by
  unfold listGatewayItems
  cases title with
  | some title =>
    have hlist : (GatewayCall.listByTitle title scope.vaultId).EffectsBeside T
        (.listByTitle title scope.vaultId) (List.Forall₂ (GatewayItem.Retimed T)) :=
      fun _ _ _ _ _ _ _ hv => ⟨.ok (hv.gatewayOverviews _ _), hv⟩
    exact (gatewayCall_beside hlist rfl _).bind fun _ _ ho => fetchGatewayItems_beside ho
  | none =>
    have hlist : (GatewayCall.list scope.vaultId).EffectsBeside T (.list scope.vaultId)
        (List.Forall₂ (GatewayItem.Retimed T)) :=
      fun _ _ _ _ _ _ _ hv => ⟨.ok (hv.gatewayOverviews _ _), hv⟩
    exact (gatewayCall_beside hlist rfl _).bind fun _ _ ho => fetchGatewayItems_beside ho

theorem createGatewayItem_beside (title value : String) :
    (createGatewayItem .vault scope title value).Couples (World.Beside T d d' slots) Eq
      (createGatewayItem .vault scope title value) := by
  have hcreate : (GatewayCall.create (newGatewayItem scope title value) scope.vaultId).EffectsBeside
      T (.create (newGatewayItem scope title value) scope.vaultId) (GatewayItem.Retimed T) := by
    intro _ _ now now' v v' hnow hv
    obtain ⟨hnew, hvault⟩ := hv.store hnow (.refl
      { (newGatewayItem scope title value).toVaultItem with vaultId := scope.vaultId })
    exact ⟨.ok hnew.ofVaultItem, hvault⟩
  exact (gatewayCall_beside hcreate rfl _).bind fun _ _ _ => .pure rfl

theorem updateGatewayItem_beside {m m' : ManagedItem} (hm : m.Retimed T m') :
    (updateGatewayItem .vault scope m).Couples (World.Beside T d d' slots) Eq
      (updateGatewayItem .vault scope m') := by
  obtain ⟨t, ht, rfl⟩ := hm
  have hput : (GatewayCall.update (replacement scope m) scope.vaultId).EffectsBeside T
      (.update (replacement scope { m with updatedAt := t }) scope.vaultId)
      (GatewayItem.Retimed T) := by
    intro _ _ now now' v v' hnow hv
    obtain ⟨hresult, hvault⟩ := hv.replace
      (i := { (replacement scope m).toVaultItem with vaultId := scope.vaultId }) ⟨t, ht, rfl⟩
    exact ⟨hresult.map fun _ _ hi => hi.ofVaultItem, hvault⟩
  exact (gatewayCall_beside hput rfl _).bind fun _ _ _ => .pure rfl

theorem deleteGatewayItem_beside (itemId : String) :
    (deleteGatewayItem .vault scope itemId).Couples (World.Beside T d d' slots) Eq
      (deleteGatewayItem .vault scope itemId) := by
  have hdelete : (GatewayCall.delete itemId scope.vaultId).EffectsBeside T
      (.delete itemId scope.vaultId) (fun r r' : Unit => r = r') :=
    fun _ _ _ _ _ _ _ hv => hv.take _ _
  exact gatewayCall_beside hdelete rfl _

end Gateway

def HasClient (slots : List Slot) : Transport → Prop
  | .standard .. | .connect .vault => True
  | .lazy slot .. => slot ∈ slots
  | .connect (.http _) => False

theorem ensureClient_beside {slot : Slot} (h : slot ∈ slots) (backend : Backend) (auth : LazyAuth) :
    (ensureClient slot backend auth).Couples (World.Beside T d d' slots) Eq
      (ensureClient slot backend auth) := by
  intro w w' hw
  have hrun := ensureClient_run_filled (hw.filled ▸ h) backend auth
  have hrun' := ensureClient_run_filled (hw.filled' ▸ h) backend auth
  rw [Action.run] at hrun hrun'
  rw [hrun, hrun']
  exact ⟨.ok rfl, hw⟩

variable {t : Transport} {scope : Scope} (hc : t.HasClient slots) (hl : Keeps t.limit? d)
  (hl' : Keeps t.limit? d')
include hc hl hl'

theorem managedItems_beside (title : Option String) :
    (t.managedItems scope title).Couples (World.Beside T d d' slots)
      (List.Forall₂ (ManagedItem.Retimed T)) (t.managedItems scope title) := by
  cases t with
  | standard backend limit => exact listItems_beside hl hl'
  | lazy slot backend auth limit =>
    exact (ensureClient_beside hc backend auth).bind_same fun _ => listItems_beside hl hl'
  | connect client =>
    cases client with
    | vault => exact listGatewayItems_beside title
    | http c => exact absurd hc id

theorem create_beside (title value : String) :
    (t.create scope title value).Couples (World.Beside T d d' slots) Eq
      (t.create scope title value) := by
  cases t with
  | standard backend limit => exact createItem_beside hl hl' title value
  | lazy slot backend auth limit =>
    exact (ensureClient_beside hc backend auth).bind_same fun _ =>
      createItem_beside hl hl' title value
  | connect client =>
    cases client with
    | vault => exact createGatewayItem_beside title value
    | http c => exact absurd hc id

theorem update_beside {m m' : ManagedItem} (hm : m.Retimed T m') :
    (t.update scope m).Couples (World.Beside T d d' slots) Eq (t.update scope m') := by
  cases t with
  | standard backend limit => exact putItem_beside hl hl' hm
  | lazy slot backend auth limit =>
    exact (ensureClient_beside hc backend auth).bind_same fun _ => putItem_beside hl hl' hm
  | connect client =>
    cases client with
    | vault => exact updateGatewayItem_beside hm
    | http c => exact absurd hc id

theorem delete_beside (itemId : String) :
    (t.delete scope itemId).Couples (World.Beside T d d' slots) Eq (t.delete scope itemId) := by
  cases t with
  | standard backend limit => exact deleteItem_beside hl hl' itemId
  | lazy slot backend auth limit =>
    exact (ensureClient_beside hc backend auth).bind_same fun _ => deleteItem_beside hl hl' itemId
  | connect client =>
    cases client with
    | vault => exact deleteGatewayItem_beside itemId
    | http c => exact absurd hc id

end Transport

namespace Keyring

section Lookup

variable {scope : Scope} {items items' : List ManagedItem}
  (h : List.Forall₂ (ManagedItem.Retimed T) items items')
include h

theorem findByKey_retimed (key : String) :
    ResultsAlike (ManagedItem.Retimed T) (scope.findByKey items key)
      (scope.findByKey items' key) := by
  have hfound : List.Forall₂ (ManagedItem.Retimed T)
      (items.filter (·.title == scope.encodeTitle key))
      (items'.filter (·.title == scope.encodeTitle key)) := by
    refine List.rel_filter ?_ h
    rintro m m' ⟨t, -, rfl⟩
    rfl
  simp only [Scope.findByKey]
  generalize items.filter _ = found at hfound ⊢
  generalize items'.filter _ = found' at hfound ⊢
  cases hfound with
  | nil => exact .error _
  | cons hm hothers =>
    cases hothers with
    | nil => exact .ok hm
    | cons hm' hothers =>
      simp only [List.length_cons, hothers.length_eq]
      exact .error _

theorem listKeys_retimed : scope.listKeys items = scope.listKeys items' := by
  have htitles : items.map (·.title) = items'.map (·.title) := by
    rw [← List.forall₂_eq_eq_eq, List.forall₂_map_left_iff, List.forall₂_map_right_iff]
    refine List.Forall₂.imp ?_ h
    rintro m m' ⟨t, -, rfl⟩
    rfl
  simp only [Scope.listKeys, htitles]

end Lookup

theorem log_beside (k : Keyring) (level : LogLevel) (message : String) :
    (k.log level message).Couples (World.Beside T d d' slots) Eq (k.log level message) :=
  Action.log_beside _ _ _

variable {k : Keyring} (hc : k.transport.HasClient slots) (hl : Keeps k.transport.limit? d)
  (hl' : Keeps k.transport.limit? d')
include hc hl hl'

theorem find_beside (key : String) :
    (k.find key).Couples (World.Beside T d d' slots) (ManagedItem.Retimed T) (k.find key) :=
  (Transport.managedItems_beside hc hl hl' _).bind fun _ _ hitems =>
    .ofExcept (findByKey_retimed hitems key)

theorem get_beside (key : String) :
    (k.get key).Couples (World.Beside T d d' slots) Eq (k.get key) := by
  refine (k.log_beside _ _).bind_same fun _ => (find_beside hc hl hl' key).bind ?_
  rintro m m' ⟨t, -, rfl⟩
  exact .ofExcept .of_eq

theorem has_beside (key : String) :
    (k.has key).Couples (World.Beside T d d' slots) Eq (k.has key) := by
  refine .tryCatch ((get_beside hc hl hl' key).bind fun _ _ _ => .pure rfl) fun e => ?_
  split
  · exact .pure rfl
  · exact .throw e

theorem getMetadata_beside (key : String) :
    (k.getMetadata key).Couples (World.Beside T d d' slots)
      (fun m m' => TimesAlike T m.modifiedAt m'.modifiedAt) (k.getMetadata key) := by
  refine .tryCatch ((find_beside hc hl hl' key).bind ?_) fun e => ?_
  · rintro m m' ⟨t, ht, rfl⟩
    exact .pure ht
  · split
    · exact .pure (.inl rfl)
    · exact .throw e

theorem find?_beside (key : String) :
    (k.find? key).Couples (World.Beside T d d' slots) (Option.Rel (ManagedItem.Retimed T))
      (k.find? key) := by
  refine .tryCatch ((find_beside hc hl hl' key).map fun _ _ hm => .some hm) fun e => ?_
  split
  · exact .pure .none
  · exact (k.log_beside _ _).bind_same fun _ => .throw e

theorem set_beside (item : Item) :
    (k.set item).Couples (World.Beside T d d' slots) Eq (k.set item) := by
  refine (find?_beside hc hl hl' item.key).bind fun existing existing' hexisting => ?_
  cases hexisting with
  | none =>
    exact (k.log_beside _ _).bind_same fun _ => Transport.create_beside hc hl hl' _ _
  | @some m m' hm =>
    obtain ⟨t, -, rfl⟩ := hm
    refine (k.log_beside _ _).bind_same fun _ => ?_
    refine (Action.Couples.perform Program.now_beside).bind fun now now' hnow => ?_
    exact Transport.update_beside hc hl hl' ⟨some now', .inr ⟨now, now', hnow, rfl, rfl⟩, rfl⟩

theorem remove_beside (key : String) :
    (k.remove key).Couples (World.Beside T d d' slots) Eq (k.remove key) := by
  refine (find_beside hc hl hl' key).bind ?_
  rintro m m' ⟨t, -, rfl⟩
  exact (k.log_beside _ _).bind_same fun _ => Transport.delete_beside hc hl hl' _

theorem keys_beside : k.keys.Couples (World.Beside T d d' slots) Eq k.keys := by
  refine (Transport.managedItems_beside hc hl hl' none).bind fun items items' hitems => ?_
  rw [← listKeys_retimed hitems]
  exact (Action.Couples.ofExcept .of_eq).bind_same fun keys =>
    (k.log_beside _ _).bind_same fun _ => .pure rfl

theorem perform_beside (operation : Operation) :
    (k.perform operation).Couples (World.Beside T d d' slots) (Answer.Retimed T)
      (k.perform operation) := by
  cases operation with
  | get key => exact (get_beside hc hl hl' key).map fun _ _ h => .inl (congrArg Answer.item h)
  | has key => exact (has_beside hc hl hl' key).map fun _ _ h => .inl (congrArg Answer.presence h)
  | getMetadata key =>
    refine (getMetadata_beside hc hl hl' key).map fun m m' h => ?_
    obtain ⟨time⟩ := m
    obtain ⟨time'⟩ := m'
    obtain rfl | ⟨now, now', hnow, rfl, rfl⟩ := (h : TimesAlike T time time')
    · exact .inl rfl
    · exact .inr ⟨now, now', hnow, rfl, rfl⟩
  | set item => exact (set_beside hc hl hl' item).map fun _ _ _ => .inl rfl
  | remove key => exact (remove_beside hc hl hl' key).map fun _ _ _ => .inl rfl
  | keys => exact (keys_beside hc hl hl').map fun _ _ h => .inl (congrArg Answer.keys h)

end Keyring

end VaultRing
