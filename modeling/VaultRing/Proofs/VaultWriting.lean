import VaultRing.Proofs.VaultListing

namespace VaultRing

namespace World

/-- One writing call has been made, of the given kind. It has left these items, and so many ids have
been given now; what surrounds the vault is the same. -/
structure Wrote (kind : CallKind) (items : List VaultItem) (drawn : Nat) (w w' : World) : Prop where
  items : w'.vault.items = items
  drawn : w'.vault.drawn = drawn
  conditions : w'.conditions = w.conditions
  filled : ∀ slot ∈ w.filled, slot ∈ w'.filled
  writes : ∀ other, other.isWrite = true →
    w'.vault.calls.of other = w.vault.calls.of other + if kind = other then 1 else 0

theorem wrote_counted (w : World) (kind : CallKind) (items : List VaultItem) (drawn : Nat) :
    Wrote kind items drawn w { w with vault := { w.vault.counted kind with items, drawn } } where
  items := rfl
  drawn := rfl
  conditions := rfl
  filled := fun _ h => h
  writes := fun other _ => CallCounts.of_count w.vault.calls kind other

variable {kind : CallKind} {items : List VaultItem} {drawn : Nat}

theorem OnlyRead.trans_wrote {w₁ w₂ w₃ : World} (h : w₁.OnlyRead w₂)
    (h' : Wrote kind items drawn w₂ w₃) : Wrote kind items drawn w₁ w₃ where
  items := h'.items
  drawn := h'.drawn
  conditions := h'.conditions.trans h.conditions
  filled := fun slot hs => h'.filled slot (h.filled slot hs)
  writes := fun other ho => by rw [h'.writes other ho, h.writes other ho]

theorem SameStore.clock_eq {w w' : World} (h : w.SameStore w') : w'.clock = w.clock :=
  congrArg Conditions.clock h.conditions

end World

def Action.Writes (a : Action Unit) (w : World) (kind : CallKind) (items : List VaultItem)
    (drawn : Nat) : Prop :=
  ∃ w', Action.run a w = (.ok (), w') ∧ w.Wrote kind items drawn w'

theorem Action.Reads.bind_writes {α : Type} {a : Action α} {f : α → Action Unit} {w : World}
    {x : α} {kind : CallKind} {items : List VaultItem} {drawn : Nat} (ha : a.Reads w (.ok x))
    (hf : ∀ w', w.OnlyRead w' → (f x).Writes w' kind items drawn) :
    Action.Writes (a >>= f) w kind items drawn := by
  obtain ⟨w₁, h₁, ho⟩ := ha
  obtain ⟨w₂, h₂, hw⟩ := hf w₁ ho
  exact ⟨w₂, (run_bind_ok h₁).trans h₂, ho.trans_wrote hw⟩

namespace Scope

def created (scope : Scope) (drawn : Nat) (now : Timestamp) (title value : String) : VaultItem where
  id := MemoryVault.idText (drawn + 1)
  title := title
  category := .apiCredential
  vaultId := scope.vaultId
  tags := [scope.tag]
  fields := [⟨MemoryVault.idText (drawn + 2), scope.fieldTitle, .concealed, value⟩]
  state := .active
  updatedAt := some now

end Scope

namespace Transport

/-- A gateway is sent the whole item as the keyring would make it; an SDK client keeps the tags. -/
def writtenTags (t : Transport) (scope : Scope) (m : ManagedItem) : List String :=
  match t with
  | .standard .. | .lazy .. => m.tags
  | .connect _ => [scope.tag]

/-- The item that is stored when `m` is written back and `drawn` ids have been given. -/
def written (t : Transport) (scope : Scope) (drawn : Nat) (m : ManagedItem) : VaultItem where
  id := m.id
  title := m.title
  category := .apiCredential
  vaultId := scope.vaultId
  tags := t.writtenTags scope m
  fields := [MemoryVault.withId drawn m.field]
  state := .active
  updatedAt := m.updatedAt

/-- A client that is built on first use is used like one that has been there. -/
theorem lazy_writes {slot : Slot} {backend : Backend} {auth : LazyAuth} {limit : Duration}
    {w : World} (h : (Transport.lazy slot backend auth limit).Ready w) {a : Action Unit}
    {kind : CallKind} {items : List VaultItem} {drawn : Nat}
    (ha : ∀ w', w.OnlyRead w' → a.Writes w' kind items drawn) :
    Action.Writes (ensureClient slot backend auth >>= fun _ => a) w kind items drawn := by
  rcases ensureClient_reads slot backend auth limit w with ⟨_, hc⟩ | ⟨hn, _⟩
  · exact hc.bind_writes ha
  · exact absurd h hn

section Create

variable {scope : Scope} {title value : String}

theorem createItem_writes {limit : Duration} {w : World} (h : w.vault.Answers (some limit)) :
    (createItem limit scope title value).Writes w .create
      (w.vault.items ++ [scope.created w.vault.drawn w.clock title value]) (w.vault.drawn + 2) :=
  ⟨_, Action.run_bind_ok (itemsCall_served h _ _), w.wrote_counted .create _ _⟩

theorem createGatewayItem_writes {w : World} (h : w.vault.Answers none) :
    (createGatewayItem .vault scope title value).Writes w .create
      (w.vault.items ++ [scope.created w.vault.drawn w.clock title value]) (w.vault.drawn + 2) :=
  ⟨_, Action.run_bind_ok (gatewayCall_served h _ _), w.wrote_counted .create _ _⟩

theorem create_writes {t : Transport} {w : World} (h : t.Served w) :
    (t.create scope title value).Writes w .create
      (w.vault.items ++ [scope.created w.vault.drawn w.clock title value]) (w.vault.drawn + 2) := by
  cases t with
  | standard backend limit => exact createItem_writes h.answers
  | lazy slot backend auth limit =>
    refine lazy_writes h.ready fun w₁ h₁ => ?_
    have hw : (createItem limit scope title value).Writes w₁ _ _ _ :=
      createItem_writes (h₁.answers h.answers)
    rwa [h₁.items, h₁.drawn, h₁.clock_eq] at hw
  | connect client =>
    cases client with
    | vault => exact createGatewayItem_writes h.answers
    | http c => exact absurd h.ready id

end Create

section Update

variable {scope : Scope} {m : ManagedItem}

structure Rewritable (scope : Scope) (w : World) (m : ManagedItem) : Prop where
  vaultId : m.vaultId = scope.vaultId
  concealed : m.field.type = .concealed
  fieldTitle : m.field.title = scope.fieldTitle
  stored : ∃ i ∈ w.vault.items, MemoryVault.place i = (scope.vaultId, m.id)

theorem Rewritable.of_sameStore {w w' : World} (hm : Rewritable scope w m)
    (h : w.SameStore w') : Rewritable scope w' m :=
  ⟨hm.vaultId, hm.concealed, hm.fieldTitle, h.items ▸ hm.stored⟩

theorem putItem_writes (backend : Backend) {limit : Duration} {w : World}
    (h : w.vault.Answers (some limit)) (hd : w.vault.Distinct) (hm : Rewritable scope w m) :
    (putItem limit scope m).Writes w .update
      (MemoryVault.rewrite ((Transport.standard backend limit).written scope w.vault.drawn m)
        w.vault.items)
      (MemoryVault.withFieldIds w.vault.drawn [m.field]).2 := by
  have hitem : { m.toVaultItem with fields := [MemoryVault.withId w.vault.drawn m.field] } =
      (Transport.standard backend limit).written scope w.vault.drawn m := by
    simp only [written, writtenTags, ManagedItem.toVaultItem, hm.vaultId]
  have hplace : ∃ i ∈ w.vault.items, MemoryVault.place i = MemoryVault.place m.toVaultItem := by
    obtain ⟨i, hi, hp⟩ := hm.stored
    exact ⟨i, hi, hp.trans (by simp [MemoryVault.place, ManagedItem.toVaultItem, hm.vaultId])⟩
  have hreplace := MemoryVault.replace_single (v := w.vault.counted .update)
    (f := m.field) hd rfl hplace
  have hcall := itemsCall_served h (Context.update m.title scope.vaultId) (.put m.toVaultItem)
  change _ = (((w.vault.counted .update).replace m.toVaultItem).1.mapError _,
    { w with vault := ((w.vault.counted .update).replace m.toVaultItem).2 }) at hcall
  rw [hreplace] at hcall
  refine ⟨_, Action.run_bind_ok hcall, ?_⟩
  rw [← hitem]
  exact w.wrote_counted .update _ _

theorem updateGatewayItem_writes (client : GatewayClient) {w : World}
    (h : w.vault.Answers none) (hd : w.vault.Distinct) (hm : Rewritable scope w m) :
    (updateGatewayItem .vault scope m).Writes w .update
      (MemoryVault.rewrite ((Transport.connect client).written scope w.vault.drawn m)
        w.vault.items)
      (MemoryVault.withFieldIds w.vault.drawn [m.field]).2 := by
  let sent : VaultItem := { (replacement scope m).toVaultItem with vaultId := scope.vaultId }
  have hfield : (⟨m.field.id, scope.fieldTitle, .concealed, m.field.value⟩ : Field) = m.field := by
    rw [← hm.concealed, ← hm.fieldTitle]
  have hsent : sent.fields = [m.field] := congrArg (fun f => [f]) hfield
  have hreplace := MemoryVault.replace_single (v := w.vault.counted .update) hd hsent hm.stored
  have hcall := gatewayCall_served h (Context.update m.title scope.vaultId)
    (.update (replacement scope m) scope.vaultId)
  change _ = ((((w.vault.counted .update).replace sent).1.map _).mapError _,
    { w with vault := ((w.vault.counted .update).replace sent).2 }) at hcall
  rw [hreplace] at hcall
  exact ⟨_, Action.run_bind_ok hcall, w.wrote_counted .update _ _⟩

theorem update_writes {t : Transport} {w : World} (h : t.Served w) (hd : w.vault.Distinct)
    (hm : Rewritable scope w m) :
    (t.update scope m).Writes w .update
      (MemoryVault.rewrite (t.written scope w.vault.drawn m) w.vault.items)
      (MemoryVault.withFieldIds w.vault.drawn [m.field]).2 := by
  cases t with
  | standard backend limit => exact putItem_writes backend h.answers hd hm
  | lazy slot backend auth limit =>
    refine lazy_writes h.ready fun w₁ h₁ => ?_
    have hw : (putItem limit scope m).Writes w₁ _ _ _ :=
      putItem_writes backend (h₁.answers h.answers) (h₁.distinct hd)
        (hm.of_sameStore h₁.toSameStore)
    rwa [h₁.items, h₁.drawn] at hw
  | connect client =>
    cases client with
    | vault => exact updateGatewayItem_writes .vault h.answers hd hm
    | http c => exact absurd h.ready id

end Update

section Delete

variable {scope : Scope} {itemId : String}

theorem deleteItem_writes {limit : Duration} {w : World} (h : w.vault.Answers (some limit))
    (hi : ∃ i ∈ w.vault.items, MemoryVault.place i = (scope.vaultId, itemId)) :
    (deleteItem limit scope itemId).Writes w .delete
      (w.vault.items.filter (!MemoryVault.isAt scope.vaultId itemId ·)) w.vault.drawn := by
  have htake := MemoryVault.take_eq (v := w.vault.counted .delete) hi
  have hcall := itemsCall_served h (Context.delete itemId scope.vaultId)
    (.delete scope.vaultId itemId)
  change _ = (((w.vault.counted .delete).take scope.vaultId itemId).1.mapError _,
    { w with vault := ((w.vault.counted .delete).take scope.vaultId itemId).2 }) at hcall
  rw [htake] at hcall
  exact ⟨_, hcall, w.wrote_counted .delete _ _⟩

theorem deleteGatewayItem_writes {w : World} (h : w.vault.Answers none)
    (hi : ∃ i ∈ w.vault.items, MemoryVault.place i = (scope.vaultId, itemId)) :
    (deleteGatewayItem .vault scope itemId).Writes w .delete
      (w.vault.items.filter (!MemoryVault.isAt scope.vaultId itemId ·)) w.vault.drawn := by
  have htake := MemoryVault.take_eq (v := w.vault.counted .delete) hi
  have hcall := gatewayCall_served h (Context.delete itemId scope.vaultId)
    (.delete itemId scope.vaultId)
  change _ = (((w.vault.counted .delete).take scope.vaultId itemId).1.mapError _,
    { w with vault := ((w.vault.counted .delete).take scope.vaultId itemId).2 }) at hcall
  rw [htake] at hcall
  exact ⟨_, hcall, w.wrote_counted .delete _ _⟩

theorem delete_writes {t : Transport} {w : World} (h : t.Served w)
    (hi : ∃ i ∈ w.vault.items, MemoryVault.place i = (scope.vaultId, itemId)) :
    (t.delete scope itemId).Writes w .delete
      (w.vault.items.filter (!MemoryVault.isAt scope.vaultId itemId ·)) w.vault.drawn := by
  cases t with
  | standard backend limit => exact deleteItem_writes h.answers hi
  | lazy slot backend auth limit =>
    refine lazy_writes h.ready fun w₁ h₁ => ?_
    have hw : (deleteItem limit scope itemId).Writes w₁ _ _ _ :=
      deleteItem_writes (h₁.answers h.answers) (h₁.items ▸ hi)
    rwa [h₁.items, h₁.drawn] at hw
  | connect client =>
    cases client with
    | vault => exact deleteGatewayItem_writes h.answers hi
    | http c => exact absurd h.ready id

end Delete

end Transport

end VaultRing
