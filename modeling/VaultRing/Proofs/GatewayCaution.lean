import VaultRing.Proofs.GatewayConversation
import VaultRing.Proofs.KeyringSession

namespace VaultRing

def Json.Value.Names (itemId fieldId : String) (v : Json.Value) : Prop :=
  ∃ members field, v = .object members ∧ ("fields", .array [.object field]) ∈ members ∧
    (itemId ≠ "" → ("id", .string itemId) ∈ members) ∧
    (fieldId ≠ "" → ("id", .string fieldId) ∈ field)

namespace Transport

def matching (scope : Scope) (items : List GatewayItem) (key : String) : List ManagedItem :=
  (managedAmong scope items).filter (·.title == scope.encodeTitle key)

end Transport

/-- What an operation may have said after it has found these items. It has said nothing only if they
do not allow it or the request has failed; and if what it has said is refused, that is its
result. -/
def Operation.Writes (c : HttpClient) (scope : Scope) (items : List GatewayItem)
    (written : List Exchange) (r : Except KeyringError Answer) : Operation → Prop
  | .get _ | .has _ | .getMetadata _ | .keys => written = []
  | .set item =>
    written = [] ∧ (Reported r ∨ 2 ≤ (Transport.matching scope items item.key).length) ∨
      ∃ e, written = [e] ∧
        (e.told? (HttpClient.decoded GatewayItem.ofText) = none → Reported r) ∧
        (Transport.matching scope items item.key = [] ∧
            e.request = c.request .post (c.collectionUrl scope.vaultId)
              (some (Transport.newGatewayItem scope (scope.encodeTitle item.key)
                (Payload.write item))) ∨
          ∃ m sent, Transport.matching scope items item.key = [m] ∧
            e.request = c.request .put (c.itemUrl scope.vaultId m.id) (some sent) ∧
            sent.json.Names m.id m.field.id)
  | .remove key =>
    written = [] ∧ (Reported r ∨ (Transport.matching scope items key).length ≠ 1) ∨
      ∃ e m, written = [e] ∧
        (e.told? .ok = none → Reported r) ∧
        Transport.matching scope items key = [m] ∧
        e.request = c.request .delete (c.itemUrl scope.vaultId m.id) none

namespace Keyring

variable {scope : Scope} {c : HttpClient} {policy : MetadataPolicy} {exchanges : List Exchange}

section Scripted

end Scripted

end Keyring

end VaultRing
