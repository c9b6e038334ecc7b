import VaultRing.Vault.Call

namespace VaultRing

structure CallCounts where
  list : Nat
  listByTitle : Nat
  get : Nat
  create : Nat
  update : Nat
  delete : Nat
deriving DecidableEq

inductive CallKind where
  | list
  | listByTitle
  | get
  | create
  | update
  | delete
deriving DecidableEq

structure MemoryVault where
  items : List VaultItem
  /-- How many ids have been given. -/
  drawn : Nat
  calls : CallCounts
  /-- The time that every call takes, in milliseconds. -/
  delay : Option Nat
  failure : Option String

namespace CallCounts

def zero : CallCounts := ⟨0, 0, 0, 0, 0, 0⟩

def count (c : CallCounts) : CallKind → CallCounts
  | .list => { c with list := c.list + 1 }
  | .listByTitle => { c with listByTitle := c.listByTitle + 1 }
  | .get => { c with get := c.get + 1 }
  | .create => { c with create := c.create + 1 }
  | .update => { c with update := c.update + 1 }
  | .delete => { c with delete := c.delete + 1 }

end CallCounts

def ItemsCall.kind : ItemsCall → CallKind
  | .list .. => .list
  | .get .. => .get
  | .create _ => .create
  | .put _ => .update
  | .delete .. => .delete

def GatewayCall.kind : GatewayCall → CallKind
  | .list _ => .list
  | .listByTitle .. => .listByTitle
  | .get .. => .get
  | .create .. => .create
  | .update .. => .update
  | .delete .. => .delete

namespace MemoryVault

def ofItems (items : List VaultItem) : MemoryVault := ⟨items, 0, CallCounts.zero, none, none⟩

def insert (v : MemoryVault) (item : VaultItem) : MemoryVault :=
  { v with items := v.items ++ [item] }

def idText (n : Nat) : String := "mock-" ++ toString n

/-- Gives ids to the fields that have none. -/
def withFieldIds (drawn : Nat) : List Field → List Field × Nat
  | [] => ([], drawn)
  | f :: fields =>
    if f.id.isEmpty then
      let (others, drawn') := withFieldIds (drawn + 1) fields
      ({ f with id := idText (drawn + 1) } :: others, drawn')
    else
      let (others, drawn') := withFieldIds drawn fields
      (f :: others, drawn')

def isAt (vaultId itemId : String) (item : VaultItem) : Bool :=
  item.vaultId == vaultId && item.id == itemId

def notFound (itemId : String) : TransportError :=
  .status 404 ("item " ++ Text.quoted itemId ++ " not found")

def find (v : MemoryVault) (vaultId itemId : String) : Except TransportError VaultItem :=
  match v.items.find? (isAt vaultId itemId) with
  | some item => .ok item
  | none => .error (notFound itemId)

/-- Appends an item with new ids. -/
def store (v : MemoryVault) (now : Timestamp) (item : VaultItem) : VaultItem × MemoryVault :=
  let (fields, drawn) := withFieldIds (v.drawn + 1) item.fields
  let item :=
    { item with id := idText (v.drawn + 1), fields, state := .active, updatedAt := some now }
  (item, { v with items := v.items ++ [item], drawn })

def replaceFirst (item : VaultItem) : List VaultItem → Option (List VaultItem)
  | [] => none
  | i :: items =>
    if isAt item.vaultId item.id i then some (item :: items)
    else (replaceFirst item items).map (i :: ·)

/-- Stored as sent. Fields get their ids even if there is nothing to replace. -/
def replace (v : MemoryVault) (item : VaultItem) :
    Except TransportError VaultItem × MemoryVault :=
  let (fields, drawn) := withFieldIds v.drawn item.fields
  let item := { item with fields }
  match replaceFirst item v.items with
  | some items => (.ok item, { v with items, drawn })
  | none => (.error (notFound item.id), { v with drawn })

def take (v : MemoryVault) (vaultId itemId : String) : Except TransportError Unit × MemoryVault :=
  if v.items.any (isAt vaultId itemId) then
    (.ok (), { v with items := v.items.filter (!isAt vaultId itemId ·) })
  else (.error (notFound itemId), v)

def gatewayOverviews (v : MemoryVault) (vaultId : String) (title : Option String) :
    List GatewayItem :=
  (v.items.filter fun i => i.vaultId == vaultId && title.all (· == i.title)).map
    fun i => (GatewayItem.ofVaultItem i).overview

def overviews (v : MemoryVault) (vaultId : String) (filter : ListFilter) : List Overview :=
  (v.items.filter fun i => i.vaultId == vaultId && filter.accepts i.state).map
    VaultItem.overview

def newItem (n : NewItem) : VaultItem where
  id := ""
  title := n.title
  category := n.category
  vaultId := n.vaultId
  tags := n.tags
  fields := n.fields
  state := .active
  updatedAt := none

/-- Whether a call takes longer than it may. -/
def isLate (v : MemoryVault) (limit : Option Duration) : Bool :=
  match v.delay, limit with
  | some delay, some limit => limit.milliseconds < delay
  | _, _ => false

/-- Counts a call and tells why it fails before it has an effect. -/
def enter (v : MemoryVault) (kind : CallKind) (limit : Option Duration) :
    Except TransportError Unit × MemoryVault :=
  let counted := { v with calls := v.calls.count kind }
  if v.isLate limit then
    (.error (.timeout (limit.getD Duration.zero)), counted)
  else
    match v.failure with
    | some message => (.error (.client message), counted)
    | none => (.ok (), counted)

def itemsEffect (v : MemoryVault) (now : Timestamp) :
    (call : ItemsCall) → Except TransportError call.Result × MemoryVault
  | .list vaultId filter => (.ok (v.overviews vaultId filter), v)
  | .get vaultId itemId => (v.find vaultId itemId, v)
  | .create item =>
    let (item, v) := v.store now (newItem item)
    (.ok item, v)
  | .put item => v.replace item
  | .delete vaultId itemId => v.take vaultId itemId

def gatewayEffect (v : MemoryVault) (now : Timestamp) :
    (call : GatewayCall) → Except TransportError call.Result × MemoryVault
  | .list vaultId => (.ok (v.gatewayOverviews vaultId none), v)
  | .listByTitle title vaultId => (.ok (v.gatewayOverviews vaultId (some title)), v)
  | .get itemId vaultId => ((v.find vaultId itemId).map GatewayItem.ofVaultItem, v)
  | .create item vaultId =>
    let (item, v) := v.store now { item.toVaultItem with vaultId }
    (.ok (GatewayItem.ofVaultItem item), v)
  | .update item vaultId =>
    let (result, v) := v.replace { item.toVaultItem with vaultId }
    (result.map GatewayItem.ofVaultItem, v)
  | .delete itemId vaultId => v.take vaultId itemId

def answerItems (v : MemoryVault) (now : Timestamp) (limit : Option Duration) (call : ItemsCall) :
    Except TransportError call.Result × MemoryVault :=
  match v.enter call.kind limit with
  | (.ok (), v) => v.itemsEffect now call
  | (.error e, v) => (.error e, v)

def answerGateway (v : MemoryVault) (now : Timestamp) (call : GatewayCall) :
    Except TransportError call.Result × MemoryVault :=
  match v.enter call.kind none with
  | (.ok (), v) => v.gatewayEffect now call
  | (.error e, v) => (.error e, v)

end MemoryVault

end VaultRing
