import VaultRing.Base64
import VaultRing.Text.Quoted
import VaultRing.Timestamp

namespace VaultRing

structure Item where
  key : String
  data : Bytes
deriving DecidableEq

/-- The data is secret: only its length is shown. -/
def Item.shown (item : Item) : String :=
  Text.record "Item"
    [("key", Text.quoted item.key),
      ("data", Text.quoted ("[" ++ toString item.data.length ++ " bytes]"))]

structure Metadata where
  modifiedAt : Option Timestamp
deriving DecidableEq

namespace Metadata

def zero : Metadata := ⟨none⟩

def isZero (m : Metadata) : Bool := m.modifiedAt.isNone

end Metadata

end VaultRing
