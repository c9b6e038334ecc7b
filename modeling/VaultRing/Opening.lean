import VaultRing.Config
import VaultRing.Keyring

namespace VaultRing.Opening

def vaultVariable : String := "OP_VAULT_ID"

def hostVariable : String := "OP_CONNECT_HOST"

def connectTokenVariable : String := "OP_CONNECT_TOKEN"

def serviceTokenVariable : String := "OP_SERVICE_ACCOUNT_TOKEN"

def accountVariable : String := "OP_DESKTOP_ACCOUNT_ID"

def defaultText : String := "keyring"

def orDefault (s : String) : String := if s.isEmpty then defaultText else s

/-- A configured value, or that of a variable. -/
def configuredOr (value name : String) : Program (Option String) :=
  if value.isEmpty then Program.lookup name else pure (some value)

def required (backend : Backend) (name : String) (value : Option String) : List ConfigError :=
  if value.isSome then [] else [.unsetVariable backend name]

def scopeOf (c : Config) (vaultId : Option String) : Scope where
  vaultId := vaultId.getD ""
  titlePrefix := orDefault c.titlePrefix
  tag := orDefault c.tag
  fieldTitle := orDefault c.fieldTitle

/-- The scope and what is missing for it. -/
def scope (c : Config) (backend : Backend) : Program (Scope × List ConfigError) := do
  let vaultId ← configuredOr c.vaultId vaultVariable
  return (scopeOf c vaultId, required backend vaultVariable vaultId)

def timeoutErrors (c : Config) (backend : Backend) : List ConfigError :=
  if c.timeout.isZero then [.zeroTimeout backend] else []

def connectorErrors (c : Config) (backend : Backend) : List ConfigError :=
  if c.hasConnector then [] else [.noConnector backend]

def tokenSource (c : Config) (backend : Backend) : TokenSource :=
  ⟨backend, [c.tokenVariable, serviceTokenVariable], c.prompt⟩

def refuseIf (errors : List ConfigError) (source : LogSource) (name : String) : Action Unit :=
  if errors.isEmpty then pure ()
  else do
    Action.log .warn source
      (name ++ " keyring configuration rejected: " ++ toString errors.length ++ " problem(s)")
    throw (.config errors)

def connect (c : Config) : Action Keyring := do
  let (scope, errors) ← Action.perform (scope c .connect)
  let host ← Action.perform (configuredOr c.connectHost hostVariable)
  let token ← Action.perform
    (TokenSource.firstSet [c.connectTokenVariable, connectTokenVariable])
  refuseIf
    (errors ++ required .connect hostVariable host ++
      required .connect connectTokenVariable token)
    .connect "Connect"
  let host := host.getD ""
  let client ← Action.ofExcept
    ((HttpClient.create host (token.getD "")).mapError (.clientInit .connect))
  Action.log .debug .connect ("Connect keyring ready: host=" ++ host ++ ", vault=" ++ scope.vaultId)
  return ⟨scope, .connect (.http client), .propagate⟩

def desktop (c : Config) : Action Keyring := do
  let (scope, errors) ← Action.perform (scope c .desktop)
  let account ← Action.perform (configuredOr c.desktopAccount accountVariable)
  refuseIf
    (timeoutErrors c .desktop ++ errors ++ required .desktop accountVariable account ++
      connectorErrors c .desktop)
    .desktop "Desktop"
  let account := account.getD ""
  Action.log .debug .desktop
    ("Desktop keyring opened: account=" ++ account ++ ", vault=" ++ scope.vaultId)
  let slot ← Action.perform Program.newSlot
  return ⟨scope, .lazy slot .desktop (.desktop account) c.timeout, .zeroWhenMissing⟩

def serviceAccount (c : Config) : Action Keyring := do
  let (scope, errors) ← Action.perform (scope c .serviceAccount)
  refuseIf (timeoutErrors c .serviceAccount ++ errors ++ connectorErrors c .serviceAccount)
    .serviceAccount "Service account"
  let slot ← Action.perform Program.newSlot
  Action.log .debug .serviceAccount ("Service account keyring opened: vault=" ++ scope.vaultId)
  let auth := LazyAuth.serviceAccount (tokenSource c .serviceAccount)
  return ⟨scope, .lazy slot .serviceAccount auth c.timeout, .zeroWhenMissing⟩

def standard (c : Config) : Action Keyring := do
  let (scope, errors) ← Action.perform (scope c .standard)
  let tokens := tokenSource c .standard
  let available ← Action.perform tokens.isAvailable
  refuseIf
    (timeoutErrors c .standard ++ errors ++ connectorErrors c .standard ++
      if available then [] else [.noToken .standard])
    .standard "Standard"
  let token ← tokens.resolve tokenPrompt
  match ← Action.perform (Program.connect (.serviceAccountToken token) integration) with
  | .ok () => pure ()
  | .error source =>
    Action.log .error .standard
      ("Standard keyring client initialization failed: " ++ source.message)
    throw (.clientInit .standard source)
  Action.log .debug .standard ("Standard keyring ready: vault=" ++ scope.vaultId)
  return ⟨scope, .standard .standard c.timeout, .zeroWhenMissing⟩

def keyring (backend : Backend) (c : Config) : Action Keyring :=
  match backend with
  | .connect => connect c
  | .desktop => desktop c
  | .serviceAccount => serviceAccount c
  | .standard => standard c

end VaultRing.Opening
