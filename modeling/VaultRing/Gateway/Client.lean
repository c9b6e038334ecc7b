import VaultRing.Program

namespace VaultRing

structure HttpClient where
  host : String
  base : Url
  token : String

inductive GatewayClient where
  | vault
  | http (client : HttpClient)

namespace HttpClient

def withoutSlashes (host : String) : String :=
  String.ofList (host.toList.reverse.dropWhile (· == '/')).reverse

def create (host token : String) : Except TransportError HttpClient :=
  let trimmed := withoutSlashes host
  match Url.ofChars? trimmed.toList with
  | some base => .ok ⟨trimmed, base, token⟩
  | none => .error (.invalidHost host)

def shown (c : HttpClient) : String :=
  Text.record "ConnectClient"
    [("host", Text.quoted c.host), ("token", Text.quoted "[redacted]")]

def collectionUrl (c : HttpClient) (vaultId : String) : Url :=
  c.base.push ["v1", "vaults", vaultId, "items"]

def itemUrl (c : HttpClient) (vaultId itemId : String) : Url :=
  c.base.push ["v1", "vaults", vaultId, "items", itemId]

def escapeTitleChar (c : Char) : List Char :=
  if c == '\\' || c == '"' then ['\\', c] else [c]

/-- Asks for the items with exactly this title. -/
def titleFilter (title : String) : String :=
  String.ofList ("title eq \"".toList ++ title.toList.flatMap escapeTitleChar ++ ['"'])

/-- The names in a URL are unescaped where they are text. -/
def unescaped? (cs : List Char) : Option String :=
  String.fromUTF8? ⟨(Url.percentDecode cs).toArray⟩

/-- The credentials in a URL, unless they are not text. -/
def credentials? (u : Url) : Option (String × Option String) :=
  (unescaped? u.username).bind fun username =>
    let password := u.password.bind unescaped?
    if username.isEmpty && password.isNone then none else some (username, password)

def basic (credentials : String × Option String) : String :=
  let text := credentials.1 ++ ":" ++ credentials.2.getD ""
  "Basic " ++ String.ofList (Base64.encode (textBytes text))

/-- Credentials in the URL are sent as a header instead. -/
def request (c : HttpClient) (method : Http.Method) (url : Url) (body : Option GatewayItem) :
    Http.Request :=
  let bearer := "Bearer " ++ c.token
  let body := body.map (·.json.text)
  match credentials? url with
  | none => ⟨method, url, [bearer], body⟩
  | some credentials =>
    ⟨method, { url with username := [], password := none }, [basic credentials, bearer], body⟩

def addressLimit : Nat := 65534

/-- Characters that a domain name may have and the address of a request may not. -/
def isAddress (u : Url) : Bool :=
  !(u.host.text.any fun c => c == '"' || c == '\x60' || c == '\x7b' || c == '\x7d') &&
    u.text.utf8ByteSize ≤ addressLimit

/-- The message in the body of a refusal; empty if there is none. -/
def refusalFormat : Json.Record String String where
  expected := "struct ConnectErrorBody"
  members := [⟨"message", fun _ => .text⟩]
  start := ""
  finish _ message := .ok message

def refusalMessage (response : Http.Response) : String :=
  let fromBody := response.body.bind fun body => (refusalFormat.read.run body).toOption
  match fromBody.filter (!·.isEmpty) with
  | some message => message
  | none => (Http.reason? response.status).getD "unknown error"

def send (c : HttpClient) (r : Http.Request) : Program (Except TransportError Http.Response) :=
  if !Http.isHeaderValue c.token then pure (.error (.http (.request none)))
  else if !isAddress r.url then pure (.error (.http (.request (some r.url.text))))
  else do
    match ← Program.request (.http r) with
    | none => return .error (.http (.connection r.url.text))
    | some response =>
      if response.isSuccess then return .ok response
      else
        let message := refusalMessage response
        Program.log .warn .connectClient
          ("Connect request failed: status=" ++ Http.statusText response.status ++
            ", message=" ++ message)
        return .error (.status response.status message)

def decoded {α : Type} (read : String → Except Json.Error α) (response : Http.Response) :
    Except TransportError α :=
  match response.body with
  | none => .error (.http .body)
  | some body => (read body).mapError fun _ => .http .body

def call (c : HttpClient) : (call : GatewayCall) → Program (Except TransportError call.Result)
  | .list vaultId => do
    return (← c.send (c.request .get (c.collectionUrl vaultId) none)).bind
      (decoded GatewayItem.listOfText)
  | .listByTitle title vaultId => do
    let url := (c.collectionUrl vaultId).withField "filter" (titleFilter title)
    return (← c.send (c.request .get url none)).bind (decoded GatewayItem.listOfText)
  | .get itemId vaultId => do
    return (← c.send (c.request .get (c.itemUrl vaultId itemId) none)).bind
      (decoded GatewayItem.ofText)
  | .create item vaultId => do
    return (← c.send (c.request .post (c.collectionUrl vaultId) (some item))).bind
      (decoded GatewayItem.ofText)
  | .update item vaultId => do
    return (← c.send (c.request .put (c.itemUrl vaultId item.id) (some item))).bind
      (decoded GatewayItem.ofText)
  | .delete itemId vaultId => do
    return (← c.send (c.request .delete (c.itemUrl vaultId itemId) none)).map fun _ => ()

end HttpClient

def GatewayClient.call : GatewayClient → (call : GatewayCall) →
    Program (Except TransportError call.Result)
  | .vault, call => Program.request (.gateway call)
  | .http client, call => client.call call

end VaultRing
