import VaultRing.Transport

namespace VaultRing

/-- What is known about a missing key. -/
inductive MetadataPolicy where
  | propagate
  | zeroWhenMissing
deriving DecidableEq

def MetadataPolicy.shown : MetadataPolicy → String
  | .propagate => "Propagate"
  | .zeroWhenMissing => "ZeroWhenMissing"

structure Keyring where
  scope : Scope
  transport : Transport
  policy : MetadataPolicy

namespace Keyring

variable (k : Keyring)

def name : String := k.transport.backend.name

def log (level : LogLevel) (message : String) : Action Unit :=
  Action.log level .keyring (k.name ++ " " ++ message)

def find (key : String) : Action ManagedItem := do
  let items ← k.transport.managedItems k.scope (some (k.scope.encodeTitle key))
  Action.ofExcept (k.scope.findByKey items key)

def decode (value : String) : Except KeyringError Item :=
  (Payload.read value).mapError .decode

def get (key : String) : Action Item := do
  k.log .debug ("get() key=" ++ Text.quoted key)
  let item ← k.find key
  Action.ofExcept (decode item.field.value)

def getMetadata (key : String) : Action Metadata :=
  tryCatch
    (do
      let item ← k.find key
      return ⟨item.updatedAt⟩)
    fun e =>
      if e.isNotFound && k.policy == .zeroWhenMissing then pure Metadata.zero else throw e

/-- The managed item for a key, if there is one. -/
def find? (key : String) : Action (Option ManagedItem) :=
  tryCatch (some <$> k.find key) fun e =>
    if e.isNotFound then pure none
    else do
      k.log .warn ("set() lookup failed for key=" ++ Text.quoted key ++ ": " ++ e.message)
      throw e

def set (item : Item) : Action Unit := do
  let existing ← k.find? item.key
  let value := Payload.write item
  match existing with
  | none =>
    k.log .debug
      ("set() creating key=" ++ Text.quoted item.key ++ ", value len=" ++
        toString value.utf8ByteSize)
    k.transport.create k.scope (k.scope.encodeTitle item.key) value
  | some found =>
    k.log .debug
      ("set() updating key=" ++ Text.quoted item.key ++ ", item id=" ++ Text.quoted found.id)
    let now ← Action.perform Program.now
    k.transport.update k.scope
      { found with field := { found.field with value }, updatedAt := some now }

def remove (key : String) : Action Unit := do
  let item ← k.find key
  k.log .debug ("remove() key=" ++ Text.quoted key ++ ", item id=" ++ Text.quoted item.id)
  k.transport.delete k.scope item.id

/-- In the listing order of the vault. -/
def keys : Action (List String) := do
  let items ← k.transport.managedItems k.scope none
  let keys ← Action.ofExcept (k.scope.listKeys items)
  k.log .debug ("keys() found " ++ toString keys.length ++ " keys")
  return keys

def has (key : String) : Action Bool :=
  tryCatch (do
      let _ ← k.get key
      return true)
    fun e => if e.isNotFound then pure false else throw e

def shown : String :=
  Text.record "VaultKeyring"
    [("scope", k.scope.shown), ("metadata_policy", k.policy.shown)]

end Keyring

end VaultRing
