namespace VaultRing

inductive Backend where
  /-- A self-hosted gateway, spoken to over HTTP. -/
  | connect
  | desktop
  | serviceAccount
  /-- A service account whose client is built when the keyring is opened. -/
  | standard
deriving DecidableEq

namespace Backend

def all : List Backend := [.connect, .desktop, .serviceAccount, .standard]

def name : Backend → String
  | .connect => "op-connect"
  | .desktop => "op-desktop"
  | .serviceAccount => "op"
  | .standard => "op-standard"

def ofName? (s : String) : Option Backend := all.find? (·.name == s)

def title : Backend → String
  | .connect => "1Password Connect"
  | .desktop => "1Password Desktop"
  | .serviceAccount | .standard => "1Password Service Accounts"

def shown : Backend → String
  | .connect => "OpConnect"
  | .desktop => "OpDesktop"
  | .serviceAccount => "OpServiceAccount"
  | .standard => "OpStandard"

def rank : Backend → Nat
  | .connect => 0
  | .desktop => 1
  | .serviceAccount => 2
  | .standard => 3

def sort (backends : List Backend) : List Backend :=
  all.flatMap fun b => backends.filter (· = b)

end Backend

end VaultRing
