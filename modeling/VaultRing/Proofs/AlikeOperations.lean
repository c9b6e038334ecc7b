import VaultRing.Proofs.AlikeRuns
import VaultRing.Proofs.KeyringEffect
import VaultRing.Proofs.PayloadLength
import VaultRing.Proofs.VaultListing

namespace VaultRing

variable {vars : List String}

def MaskedAlike (items items' : List ManagedItem) : Prop :=
  items.map ManagedItem.masked = items'.map ManagedItem.masked

theorem MaskedAlike.found {scope : Scope} {i i' : VaultItem} {others others' : List ManagedItem}
    (h : MaskedAlike others others') (hi : i.masked = i'.masked) :
    MaskedAlike ((scope.managed? i).toList ++ others) ((scope.managed? i').toList ++ others') := by
  have hmanaged : (scope.managed? i).map ManagedItem.masked =
      (scope.managed? i').map ManagedItem.masked := by
    rw [← scope.managed?_masked, ← scope.managed?_masked, hi]
  unfold MaskedAlike at h ⊢
  rw [List.map_append, List.map_append, ← Option.toList_map, ← Option.toList_map, hmanaged, h]

/-- Effects on alike vaults, with related results, that leave them alike. -/
def ItemsCall.EffectsAlike (call call' : ItemsCall)
    (S : call.Result → call'.Result → Prop) : Prop :=
  ∀ (now now' : Timestamp) (u u' : MemoryVault), u.masked = u'.masked →
    ResultsAlike S (u.itemsEffect now call).1 (u'.itemsEffect now' call').1 ∧
      (u.itemsEffect now call).2.masked = (u'.itemsEffect now' call').2.masked

def GatewayCall.EffectsAlike (call call' : GatewayCall) (S : call.Result → call'.Result → Prop) :
    Prop :=
  ∀ (now now' : Timestamp) (u u' : MemoryVault), u.masked = u'.masked →
    ResultsAlike S (u.gatewayEffect now call).1 (u'.gatewayEffect now' call').1 ∧
      (u.gatewayEffect now call).2.masked = (u'.gatewayEffect now' call').2.masked

section Shown

variable {m m' : ManagedItem} (h : m.masked = m'.masked)
include h

theorem ManagedItem.title_of_masked : m.title = m'.title := (congrArg ManagedItem.title h :)

theorem ManagedItem.id_of_masked : m.id = m'.id := (congrArg ManagedItem.id h :)

theorem ManagedItem.revalued_masked (now now' : Timestamp) (value value' : String) :
    (m.revalued now value).masked = (m'.revalued now' value').masked := h

end Shown

namespace MemoryVault

variable {v v' : MemoryVault}

theorem enter_alike (h : v.masked = v'.masked) (kind : CallKind) (limit : Option Duration) :
    (v.enter kind limit).1 = (v'.enter kind limit).1 ∧
      (v.enter kind limit).2.masked = (v'.enter kind limit).2.masked := by
  have henter : v.masked.enter kind limit = v'.masked.enter kind limit := by rw [h]
  rw [enter_masked, enter_masked] at henter
  exact Prod.mk.inj henter

/-- Calls with alike effects are answered alike, for they fail alike. -/
theorem answerItems_alike {call call' : ItemsCall} {S : call.Result → call'.Result → Prop}
    (h : v.masked = v'.masked) (hkind : call.kind = call'.kind)
    (heffect : call.EffectsAlike call' S) (now now' : Timestamp) (limit : Option Duration) :
    ResultsAlike S (v.answerItems now limit call).1 (v'.answerItems now' limit call').1 ∧
      (v.answerItems now limit call).2.masked = (v'.answerItems now' limit call').2.masked := by
  obtain ⟨hresult, hmasked⟩ := enter_alike h call'.kind limit
  unfold answerItems
  rw [hkind]
  generalize v.enter call'.kind limit = entered at hresult hmasked ⊢
  generalize v'.enter call'.kind limit = entered' at hresult hmasked ⊢
  obtain ⟨result, u⟩ := entered
  obtain ⟨result', u'⟩ := entered'
  obtain rfl : result = result' := hresult
  cases result with
  | ok => exact heffect now now' u u' hmasked
  | error e => exact ⟨.error e, hmasked⟩

theorem answerGateway_alike {call call' : GatewayCall} {S : call.Result → call'.Result → Prop}
    (h : v.masked = v'.masked) (hkind : call.kind = call'.kind)
    (heffect : call.EffectsAlike call' S) (now now' : Timestamp) :
    ResultsAlike S (v.answerGateway now call).1 (v'.answerGateway now' call').1 ∧
      (v.answerGateway now call).2.masked = (v'.answerGateway now' call').2.masked := by
  obtain ⟨hresult, hmasked⟩ := enter_alike h call'.kind none
  unfold answerGateway
  rw [hkind]
  generalize v.enter call'.kind none = entered at hresult hmasked ⊢
  generalize v'.enter call'.kind none = entered' at hresult hmasked ⊢
  obtain ⟨result, u⟩ := entered
  obtain ⟨result', u'⟩ := entered'
  obtain rfl : result = result' := hresult
  cases result with
  | ok => exact heffect now now' u u' hmasked
  | error e => exact ⟨.error e, hmasked⟩

variable {u u' : MemoryVault} (h : u.masked = u'.masked)
include h

theorem find_alike (vaultId itemId : String) :
    ResultsAlike (fun i i' : VaultItem => i.masked = i'.masked) (u.find vaultId itemId)
      (u'.find vaultId itemId) := by
  apply ResultsAlike.of_map_eq
  rw [← find_masked, ← find_masked, h]

theorem store_alike {item item' : VaultItem} (hi : item.masked = item'.masked)
    (now now' : Timestamp) : (u.store now item).2.masked = (u'.store now' item').2.masked := by
  rw [← u.store_masked now, h, hi, u'.store_masked now now']

theorem replace_alike {item item' : VaultItem} (hi : item.masked = item'.masked) :
    ResultsAlike (fun i i' : VaultItem => i.masked = i'.masked) (u.replace item).1
        (u'.replace item').1 ∧
      (u.replace item).2.masked = (u'.replace item').2.masked := by
  have hreplace : u.masked.replace item.masked = u'.masked.replace item'.masked := by rw [h, hi]
  rw [replace_masked, replace_masked] at hreplace
  obtain ⟨hresult, hvault⟩ := Prod.mk.inj hreplace
  exact ⟨.of_map_eq hresult, hvault⟩

theorem take_alike (vaultId itemId : String) :
    ResultsAlike Eq (u.take vaultId itemId).1 (u'.take vaultId itemId).1 ∧
      (u.take vaultId itemId).2.masked = (u'.take vaultId itemId).2.masked := by
  have htake : u.masked.take vaultId itemId = u'.masked.take vaultId itemId := by rw [h]
  rw [take_masked, take_masked] at htake
  obtain ⟨hresult, hvault⟩ := Prod.mk.inj htake
  exact ⟨hresult ▸ .of_eq, hvault⟩

end MemoryVault

theorem World.AlikeButSecrets.withVault {w w' : World} (h : w.AlikeButSecrets vars w')
    {v v' : MemoryVault} (hv : v.masked = v'.masked) :
    World.AlikeButSecrets vars { w with vault := v } { w' with vault := v' } :=
  ⟨hv, h.connector, h.slots, h.filled, h.environment, h.logger⟩

namespace Transport

section Sdk

variable {limit : Duration} {scope : Scope}

theorem itemsCall_alike {call call' : ItemsCall} {S : call.Result → call'.Result → Prop}
    (heffect : call.EffectsAlike call' S) (hkind : call.kind = call'.kind) (context : String) :
    (itemsCall limit context call).Alike vars S (itemsCall limit context call') := by
  apply Action.Couples.orFail
  intro w w' hw
  obtain ⟨hresult, hvault⟩ :=
    MemoryVault.answerItems_alike hw.vault hkind heffect w.clock w'.clock (some limit)
  exact ⟨hresult, hw.withVault hvault⟩

theorem fetchItems_alike (overviews : List Overview) :
    (fetchItems limit scope overviews).Alike vars MaskedAlike
      (fetchItems limit scope overviews) := by
  induction overviews with
  | nil => exact .pure rfl
  | cons o overviews ih =>
    unfold fetchItems
    split
    · exact ih
    have hget : (ItemsCall.get scope.vaultId o.id).EffectsAlike (.get scope.vaultId o.id)
        fun i i' : VaultItem => i.masked = i'.masked :=
      fun _ _ _ _ hu => ⟨MemoryVault.find_alike hu _ _, hu⟩
    refine (itemsCall_alike hget rfl _).bind fun i i' hi => ?_
    exact ih.bind fun others others' hothers => .pure (hothers.found hi)

theorem fetchItems_untimed (overviews : List Overview) :
    fetchItems limit scope (overviews.map Overview.untimed) = fetchItems limit scope overviews := by
  induction overviews with
  | nil => rfl
  | cons o overviews ih =>
    rw [List.map_cons, fetchItems, fetchItems, ih]
    rfl

theorem listItems_alike :
    (listItems limit scope).Alike vars MaskedAlike (listItems limit scope) := by
  have hlist : (ItemsCall.list scope.vaultId .activeOnly).EffectsAlike
      (.list scope.vaultId .activeOnly)
      (fun o o' : List Overview => o.map Overview.untimed = o'.map Overview.untimed) := by
    intro _ _ u u' hu
    refine ⟨.ok ?_, hu⟩
    rw [← u.overviews_masked, ← u'.overviews_masked, hu]
  refine (itemsCall_alike hlist rfl _).bind fun overviews overviews' ho => ?_
  rw [← fetchItems_untimed overviews, ho, fetchItems_untimed overviews']
  exact fetchItems_alike overviews'

theorem createItem_alike (title value value' : String) :
    (createItem limit scope title value).Alike vars Eq (createItem limit scope title value') := by
  have hnew : (MemoryVault.newItem (newItem scope title value)).masked =
      (MemoryVault.newItem (newItem scope title value')).masked := rfl
  have hcreate : (ItemsCall.create (newItem scope title value)).EffectsAlike
      (.create (newItem scope title value')) Anyhow :=
    fun _ _ _ _ hu => ⟨.ok trivial, MemoryVault.store_alike hu hnew _ _⟩
  exact (itemsCall_alike hcreate rfl _).bind fun _ _ _ => .pure rfl

theorem putItem_alike {m m' : ManagedItem} (hm : m.masked = m'.masked) :
    (putItem limit scope m).Alike vars Eq (putItem limit scope m') := by
  have hitem : m.toVaultItem.masked = m'.toVaultItem.masked :=
    (congrArg ManagedItem.toVaultItem hm :)
  have hput : (ItemsCall.put m.toVaultItem).EffectsAlike (.put m'.toVaultItem)
      fun i i' : VaultItem => i.masked = i'.masked :=
    fun _ _ _ _ hu => MemoryVault.replace_alike hu hitem
  unfold putItem
  rw [← ManagedItem.title_of_masked hm]
  exact (itemsCall_alike hput rfl _).bind fun _ _ _ => .pure rfl

theorem deleteItem_alike (itemId : String) :
    (deleteItem limit scope itemId).Alike vars Eq (deleteItem limit scope itemId) := by
  have hdelete : (ItemsCall.delete scope.vaultId itemId).EffectsAlike (.delete scope.vaultId itemId)
      (fun r r' : Unit => r = r') :=
    fun _ _ _ _ hu => MemoryVault.take_alike hu _ _
  exact itemsCall_alike hdelete rfl _

end Sdk

section Gateway

variable {scope : Scope}

theorem gatewayCall_alike {call call' : GatewayCall} {S : call.Result → call'.Result → Prop}
    (heffect : call.EffectsAlike call' S) (hkind : call.kind = call'.kind) (context : String) :
    (gatewayCall .vault context call).Alike vars S (gatewayCall .vault context call') := by
  apply Action.Couples.orFail
  intro w w' hw
  obtain ⟨hresult, hvault⟩ :=
    MemoryVault.answerGateway_alike hw.vault hkind heffect w.clock w'.clock
  exact ⟨hresult, hw.withVault hvault⟩

theorem fetchGatewayItems_alike (overviews : List GatewayItem) :
    (fetchGatewayItems .vault scope overviews).Alike vars MaskedAlike
      (fetchGatewayItems .vault scope overviews) := by
  induction overviews with
  | nil => exact .pure rfl
  | cons o overviews ih =>
    unfold fetchGatewayItems
    split
    · exact ih
    have hget : (GatewayCall.get o.id scope.vaultId).EffectsAlike (.get o.id scope.vaultId)
        fun i i' : GatewayItem => i.toVaultItem.masked = i'.toVaultItem.masked := by
      intro _ _ u u' hu
      refine ⟨(MemoryVault.find_alike hu scope.vaultId o.id).map fun i i' hi => ?_, hu⟩
      rw [GatewayItem.toVaultItem_ofVaultItem, GatewayItem.toVaultItem_ofVaultItem, hi]
    refine (gatewayCall_alike hget rfl _).bind fun i i' hi => ?_
    exact ih.bind fun others others' hothers => .pure (hothers.found hi)

theorem fetchGatewayItems_untimed (client : GatewayClient) (overviews : List GatewayItem) :
    fetchGatewayItems client scope (overviews.map GatewayItem.untimed) =
      fetchGatewayItems client scope overviews := by
  induction overviews with
  | nil => rfl
  | cons o overviews ih =>
    rw [List.map_cons, fetchGatewayItems, fetchGatewayItems, ih]
    rfl

theorem listGatewayItems_alike (title : Option String) :
    (listGatewayItems .vault scope title).Alike vars MaskedAlike
      (listGatewayItems .vault scope title) := by
  have hoverviews {u u' : MemoryVault} (hu : u.masked = u'.masked) :
      (u.gatewayOverviews scope.vaultId title).map GatewayItem.untimed =
        (u'.gatewayOverviews scope.vaultId title).map GatewayItem.untimed := by
    rw [← u.gatewayOverviews_masked, ← u'.gatewayOverviews_masked, hu]
  have hfetch {o o' : List GatewayItem}
      (ho : o.map GatewayItem.untimed = o'.map GatewayItem.untimed) :
      (fetchGatewayItems .vault scope o).Alike vars MaskedAlike
        (fetchGatewayItems .vault scope o') := by
    rw [← fetchGatewayItems_untimed _ o, ho, fetchGatewayItems_untimed _ o']
    exact fetchGatewayItems_alike o'
  unfold listGatewayItems
  cases title with
  | some title =>
    have hlist : (GatewayCall.listByTitle title scope.vaultId).EffectsAlike
        (.listByTitle title scope.vaultId) (fun o o' : List GatewayItem =>
          o.map GatewayItem.untimed = o'.map GatewayItem.untimed) :=
      fun _ _ _ _ hu => ⟨.ok (hoverviews hu), hu⟩
    exact (gatewayCall_alike hlist rfl _).bind fun _ _ ho => hfetch ho
  | none =>
    have hlist : (GatewayCall.list scope.vaultId).EffectsAlike (.list scope.vaultId)
        (fun o o' : List GatewayItem =>
          o.map GatewayItem.untimed = o'.map GatewayItem.untimed) :=
      fun _ _ _ _ hu => ⟨.ok (hoverviews hu), hu⟩
    exact (gatewayCall_alike hlist rfl _).bind fun _ _ ho => hfetch ho

theorem createGatewayItem_alike (title value value' : String) :
    (createGatewayItem .vault scope title value).Alike vars Eq
      (createGatewayItem .vault scope title value') := by
  let sent (value : String) : VaultItem :=
    { (newGatewayItem scope title value).toVaultItem with vaultId := scope.vaultId }
  have hsent : (sent value).masked = (sent value').masked := rfl
  have hcreate : (GatewayCall.create (newGatewayItem scope title value) scope.vaultId).EffectsAlike
      (.create (newGatewayItem scope title value') scope.vaultId) Anyhow :=
    fun _ _ _ _ hu => ⟨.ok trivial, MemoryVault.store_alike hu hsent _ _⟩
  exact (gatewayCall_alike hcreate rfl _).bind fun _ _ _ => .pure rfl

theorem updateGatewayItem_alike {m m' : ManagedItem} (hm : m.masked = m'.masked) :
    (updateGatewayItem .vault scope m).Alike vars Eq (updateGatewayItem .vault scope m') := by
  let sent (n : ManagedItem) : VaultItem :=
    { (replacement scope n).toVaultItem with vaultId := scope.vaultId }
  have hsent : (sent m).masked = (sent m').masked := (congrArg sent hm :)
  have hput : (GatewayCall.update (replacement scope m) scope.vaultId).EffectsAlike
      (.update (replacement scope m') scope.vaultId) Anyhow := by
    intro _ _ u u' hu
    obtain ⟨hresult, hvault⟩ := MemoryVault.replace_alike hu hsent
    exact ⟨hresult.map fun _ _ _ => trivial, hvault⟩
  unfold updateGatewayItem
  rw [← ManagedItem.title_of_masked hm]
  exact (gatewayCall_alike hput rfl _).bind fun _ _ _ => .pure rfl

theorem deleteGatewayItem_alike (itemId : String) :
    (deleteGatewayItem .vault scope itemId).Alike vars Eq
      (deleteGatewayItem .vault scope itemId) := by
  have hdelete : (GatewayCall.delete itemId scope.vaultId).EffectsAlike
      (.delete itemId scope.vaultId) (fun r r' : Unit => r = r') :=
    fun _ _ _ _ hu => MemoryVault.take_alike hu _ _
  exact gatewayCall_alike hdelete rfl _

end Gateway

end Transport

end VaultRing
