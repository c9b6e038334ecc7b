import VaultRing.Error
import VaultRing.Gateway.Item

namespace VaultRing

inductive ItemsCall where
  | list (vaultId : String) (filter : ListFilter)
  | get (vaultId itemId : String)
  | create (item : NewItem)
  | put (item : VaultItem)
  | delete (vaultId itemId : String)
deriving DecidableEq

inductive GatewayCall where
  | list (vaultId : String)
  | listByTitle (title vaultId : String)
  | get (itemId vaultId : String)
  | create (item : GatewayItem) (vaultId : String)
  | update (item : GatewayItem) (vaultId : String)
  | delete (itemId vaultId : String)
deriving DecidableEq

/-- What a successful call gives. -/
def ItemsCall.Result : ItemsCall → Type
  | .list .. => List Overview
  | .get .. | .create _ | .put _ => VaultItem
  | .delete .. => Unit

def GatewayCall.Result : GatewayCall → Type
  | .list _ | .listByTitle .. => List GatewayItem
  | .get .. | .create .. | .update .. => GatewayItem
  | .delete .. => Unit

inductive ClientAuth where
  | serviceAccountToken (token : String)
  | desktopAccount (account : String)
deriving DecidableEq

namespace ClientAuth

def shown : ClientAuth → String
  | .serviceAccountToken _ => "ServiceAccountToken(..)"
  | .desktopAccount account => Text.applied "DesktopAccount" (Text.quoted account)

end ClientAuth

/-- What the library calls itself towards the vault service. -/
structure Integration where
  name : String
  version : String
deriving DecidableEq

def integration : Integration := ⟨"keyring", "v1.0.0"⟩

end VaultRing
