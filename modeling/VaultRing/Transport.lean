import VaultRing.Gateway.Client
import VaultRing.Scope
import VaultRing.Token

namespace VaultRing

/-- Credentials that are resolved when the client is first needed. -/
inductive LazyAuth where
  | desktop (account : String)
  | serviceAccount (tokens : TokenSource)

inductive Transport where
  | standard (backend : Backend) (limit : Duration)
  | lazy (slot : Slot) (backend : Backend) (auth : LazyAuth) (limit : Duration)
  | connect (client : GatewayClient)

def tokenPrompt : String := "Enter 1Password service account token"

namespace Context

def list (vaultId : String) : String :=
  "Unable to list items in vault with ID " ++ Text.quoted vaultId

def overviews (vaultId : String) : String :=
  "Unable to get item overviews from vault with ID " ++ Text.quoted vaultId

def overviewsByTitle (title vaultId : String) : String :=
  "Unable to get item overviews with title " ++ Text.quoted title ++ " from vault with ID " ++
    Text.quoted vaultId

def get (itemId vaultId : String) : String :=
  "Unable to get item with ID " ++ Text.quoted itemId ++ " from vault with ID " ++
    Text.quoted vaultId

def create (title vaultId : String) : String :=
  "Unable to create item with title " ++ Text.quoted title ++ " in vault with ID " ++
    Text.quoted vaultId

def update (title vaultId : String) : String :=
  "Unable to update item with title " ++ Text.quoted title ++ " in vault with ID " ++
    Text.quoted vaultId

def delete (itemId vaultId : String) : String :=
  "Unable to delete item with ID " ++ Text.quoted itemId ++ " in vault with ID " ++
    Text.quoted vaultId

end Context

namespace LazyAuth

def resolve : LazyAuth → Action ClientAuth
  | .desktop account => pure (.desktopAccount account)
  | .serviceAccount tokens => .serviceAccountToken <$> tokens.resolve tokenPrompt

def shown : LazyAuth → String
  | .desktop account => Text.applied "Desktop" (Text.quoted account)
  | .serviceAccount tokens => Text.applied "ServiceAccount" tokens.shown

end LazyAuth

namespace Transport

def backend : Transport → Backend
  | .standard backend _ => backend
  | .lazy _ backend _ _ => backend
  | .connect _ => .connect

section Sdk

def itemsCall (limit : Duration) (context : String) (call : ItemsCall) : Action call.Result :=
  Action.orFail (Program.request (.items (some limit) call)) (.transport context)

/-- Fetches the candidates among some overviews and keeps those that are managed. -/
def fetchItems (limit : Duration) (scope : Scope) : List Overview → Action (List ManagedItem)
  | [] => pure []
  | o :: overviews => do
    if !scope.isCandidate o.tags o.category o.state then fetchItems limit scope overviews
    else
      let item ← itemsCall limit (Context.get o.id scope.vaultId) (.get scope.vaultId o.id)
      let others ← fetchItems limit scope overviews
      return (scope.managed? item).toList ++ others

def listItems (limit : Duration) (scope : Scope) : Action (List ManagedItem) := do
  fetchItems limit scope
    (← itemsCall limit (Context.list scope.vaultId) (.list scope.vaultId .activeOnly))

def newItem (scope : Scope) (title value : String) : NewItem where
  category := .apiCredential
  vaultId := scope.vaultId
  title := title
  fields := [⟨"", scope.fieldTitle, .concealed, value⟩]
  tags := [scope.tag]

def createItem (limit : Duration) (scope : Scope) (title value : String) : Action Unit := do
  let _ ← itemsCall limit (Context.create title scope.vaultId)
    (.create (newItem scope title value))

def putItem (limit : Duration) (scope : Scope) (item : ManagedItem) : Action Unit := do
  let _ ← itemsCall limit (Context.update item.title scope.vaultId) (.put item.toVaultItem)

def deleteItem (limit : Duration) (scope : Scope) (itemId : String) : Action Unit :=
  itemsCall limit (Context.delete itemId scope.vaultId) (.delete scope.vaultId itemId)

end Sdk

section Lazy

variable (slot : Slot) (backend : Backend)

/-- A failed attempt leaves the place empty. -/
def connectClient (auth : ClientAuth) : Action Unit := do
  match ← Action.perform (Program.connect auth integration) with
  | .ok () => Action.perform (Program.fill slot)
  | .error source =>
    Action.log .error .lazy (backend.name ++ " client initialization failed: " ++ source.message)
    throw (.clientInit backend source)

def buildClient (auth : LazyAuth) : Action Unit := do
  let auth ← auth.resolve
  Action.log .debug .lazy ("Connecting " ++ backend.name ++ " client: " ++ auth.shown)
  connectClient slot backend auth

def ensureClient (auth : LazyAuth) : Action Unit := do
  if ← Action.perform (Program.isFilled slot) then pure ()
  else buildClient slot backend auth

end Lazy

section Gateway

def gatewayCall (client : GatewayClient) (context : String) (call : GatewayCall) :
    Action call.Result :=
  Action.orFail (client.call call) (.transport context)

def fetchGatewayItems (client : GatewayClient) (scope : Scope) :
    List GatewayItem → Action (List ManagedItem)
  | [] => pure []
  | o :: overviews => do
    if !scope.isCandidate o.tags o.category (o.state.getD .active) then
      fetchGatewayItems client scope overviews
    else
      let item ← gatewayCall client (Context.get o.id scope.vaultId) (.get o.id scope.vaultId)
      let others ← fetchGatewayItems client scope overviews
      return (scope.managed? item.toVaultItem).toList ++ others

def listGatewayItems (client : GatewayClient) (scope : Scope) (title : Option String) :
    Action (List ManagedItem) := do
  let overviews : List GatewayItem ← match title with
    | some title =>
      gatewayCall client (Context.overviewsByTitle title scope.vaultId)
        (.listByTitle title scope.vaultId)
    | none => gatewayCall client (Context.overviews scope.vaultId) (.list scope.vaultId)
  fetchGatewayItems client scope overviews

def newGatewayItem (scope : Scope) (title value : String) : GatewayItem :=
  { GatewayItem.empty with
    title
    vaultId := scope.vaultId
    category := .apiCredential
    tags := [scope.tag]
    fields := [⟨"", .concealed, scope.fieldTitle, value⟩] }

/-- The whole item as the keyring would make it, with the ids it has. -/
def replacement (scope : Scope) (item : ManagedItem) : GatewayItem :=
  { newGatewayItem scope item.title item.field.value with
    id := item.id
    fields := [⟨item.field.id, .concealed, scope.fieldTitle, item.field.value⟩]
    updatedAt := item.updatedAt }

def createGatewayItem (client : GatewayClient) (scope : Scope) (title value : String) :
    Action Unit := do
  let _ ← gatewayCall client (Context.create title scope.vaultId)
    (.create (newGatewayItem scope title value) scope.vaultId)

def updateGatewayItem (client : GatewayClient) (scope : Scope) (item : ManagedItem) :
    Action Unit := do
  let _ ← gatewayCall client (Context.update item.title scope.vaultId)
    (.update (replacement scope item) scope.vaultId)

def deleteGatewayItem (client : GatewayClient) (scope : Scope) (itemId : String) : Action Unit :=
  gatewayCall client (Context.delete itemId scope.vaultId) (.delete itemId scope.vaultId)

end Gateway

/-- The managed items in listing order. A gateway lists only those with the title, if one is
given. -/
def managedItems (t : Transport) (scope : Scope) (title : Option String) :
    Action (List ManagedItem) :=
  match t with
  | .standard _ limit => listItems limit scope
  | .lazy slot backend auth limit => do
    ensureClient slot backend auth
    listItems limit scope
  | .connect client => listGatewayItems client scope title

def create (t : Transport) (scope : Scope) (title value : String) : Action Unit :=
  match t with
  | .standard _ limit => createItem limit scope title value
  | .lazy slot backend auth limit => do
    ensureClient slot backend auth
    createItem limit scope title value
  | .connect client => createGatewayItem client scope title value

def update (t : Transport) (scope : Scope) (item : ManagedItem) : Action Unit :=
  match t with
  | .standard _ limit => putItem limit scope item
  | .lazy slot backend auth limit => do
    ensureClient slot backend auth
    putItem limit scope item
  | .connect client => updateGatewayItem client scope item

def delete (t : Transport) (scope : Scope) (itemId : String) : Action Unit :=
  match t with
  | .standard _ limit => deleteItem limit scope itemId
  | .lazy slot backend auth limit => do
    ensureClient slot backend auth
    deleteItem limit scope itemId
  | .connect client => deleteGatewayItem client scope itemId

/-- `filled` tells whether a lazy client has been built. -/
def shown (t : Transport) (filled : Bool) : String :=
  match t with
  | .standard backend limit =>
    Text.record "StandardTransport" [("backend", backend.shown), ("timeout", limit.text)]
  | .lazy _ backend auth limit =>
    Text.record "LazyTransport"
      [("backend", backend.shown), ("auth", auth.shown), ("timeout", limit.text),
        ("initialized", Text.shownBool filled)]
  | .connect .vault => "ConnectTransport"
  | .connect (.http client) => client.shown

end Transport

end VaultRing
