import VaultRing.Opening

namespace VaultRing

structure Registry.Entry where
  backend : Backend
  description : String
  opener : Config → Action Keyring

/-- At most one entry for each backend, in the order of the backends. -/
structure Registry where
  entries : List Registry.Entry

namespace Registry

def empty : Registry := ⟨[]⟩

def find? (r : Registry) (backend : Backend) : Option Entry :=
  r.entries.find? (·.backend == backend)

def contains (r : Registry) (backend : Backend) : Bool := (r.find? backend).isSome

/-- Takes the place of an entry for the same backend. -/
def register (r : Registry) (e : Entry) : Registry :=
  ⟨r.entries.filter (·.backend.rank < e.backend.rank) ++
    e :: r.entries.filter (e.backend.rank < ·.backend.rank)⟩

def backends (r : Registry) : List (Backend × String) :=
  r.entries.map fun e => (e.backend, e.description)

def description : Backend → String
  | .connect => "Items in a vault behind a Connect gateway"
  | .desktop => "Items in a vault reached through the desktop app"
  | .serviceAccount => "Items in a vault reached with a service account token"
  | .standard => "Items in a vault reached with a service account token, authenticated at open"

def defaults : Registry :=
  (Backend.all.map fun b => Entry.mk b (description b) (Opening.keyring b)).foldl register empty

def openKeyring (r : Registry) (backend : Backend) (c : Config) : Action Keyring :=
  match r.find? backend with
  | none => do
    Action.log .warn .registry ("No keyring registered for backend " ++ backend.name)
    throw (.unsupportedBackend backend.name)
  | some e => do
    Action.log .debug .registry ("Opening " ++ backend.name ++ " keyring")
    e.opener c

def openNamed (r : Registry) (name : String) (c : Config) : Action Keyring :=
  match Backend.ofName? name with
  | none => throw (.unsupportedBackend name)
  | some backend => r.openKeyring backend c

def shown (r : Registry) : String :=
  let entry (e : Entry) :=
    e.backend.shown ++ ": " ++
      Text.record "BackendDefinition"
        [("backend", e.backend.shown), ("description", Text.quoted e.description)]
  Text.record "BackendRegistry"
    [("backends", "\x7b" ++ ", ".intercalate (r.entries.map entry) ++ "\x7d")]

end Registry

end VaultRing
