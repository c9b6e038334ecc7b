import VaultRing.Backend
import VaultRing.Json.Reader

namespace VaultRing.Backend

def reader : Json.Reader Backend :=
  .variant fun s =>
    match ofName? s with
    | some backend => .ok backend
    | none => .error (.unknownVariant s (all.map name))

end VaultRing.Backend
