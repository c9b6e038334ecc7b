import VaultRing.Keyring
import VaultRing.Proofs.VaultWriting

namespace VaultRing

theorem KeyringError.eq_keyNotFound {e : KeyringError} (h : e.isNotFound = true) :
    e = .keyNotFound := by
  cases e with
  | keyNotFound => rfl
  | _ => cases h

theorem KeyringError.isNotFound_of_isOutside {e : KeyringError} (h : e.isOutside = true) :
    e.isNotFound = false := by
  cases e with
  | keyNotFound => cases h
  | _ => rfl

def MemoryVault.lookup (v : MemoryVault) (scope : Scope) (key : String) :
    Except KeyringError ManagedItem :=
  scope.findByKey (v.managedItems scope) key

theorem World.SameStore.lookup_eq {w w' : World} (h : w.SameStore w') (scope : Scope)
    (key : String) : w'.vault.lookup scope key = w.vault.lookup scope key := by
  unfold MemoryVault.lookup
  rw [h.managedItems_eq]

namespace Keyring

variable {k : Keyring} {w : World} {key : String}

section Find

theorem find_readOnly (k : Keyring) (key : String) : (k.find key).ReadOnly :=
  .bind (k.transport.managedItems_readOnly _ _) fun _ => .ofExcept _

/-- Over every transport that reaches the vault, the lookup goes over all its managed items. -/
theorem find_reads (h : k.transport.Served w) (hd : w.vault.Distinct) (key : String) :
    (k.find key).Reads w (w.vault.lookup k.scope key) := by
  refine (Transport.managedItems_reads h hd k.scope _).bind_ok fun w₁ _ => ?_
  rw [Transport.findByKey_listed]
  exact .ofExcept _ w₁

theorem find_fails (ho : k.transport.OverVault) (h : ¬ k.transport.Served w) (key : String) :
    ∃ e, e.isOutside = true ∧ (k.find key).Reads w (.error e) := by
  obtain ⟨e, hoe, hr⟩ := Transport.managedItems_fails ho h k.scope (some (k.scope.encodeTitle key))
  exact ⟨e, hoe, hr.bind_error⟩

theorem find?_readOnly (k : Keyring) (key : String) : (k.find? key).ReadOnly := by
  refine .tryCatch (.map some (k.find_readOnly key)) fun e => ?_
  split
  · exact .pure none
  · exact .bind (.log _ _ _) fun _ => .throw e

theorem find?_reads_some {m : ManagedItem} (h : (k.find key).Reads w (.ok m)) :
    (k.find? key).Reads w (.ok (some m)) := .tryCatch_ok (h.map some)

theorem find?_reads_none (h : (k.find key).Reads w (.error .keyNotFound)) :
    (k.find? key).Reads w (.ok none) := .tryCatch_error (h.map some) fun w₁ _ => .pure none w₁

theorem find?_reads_error {e : KeyringError} (h : (k.find key).Reads w (.error e))
    (he : e.isNotFound = false) : (k.find? key).Reads w (.error e) := by
  refine .tryCatch_error (h.map some) fun w₁ _ => ?_
  rw [he]
  exact .log_bind fun w₂ _ => .throw e w₂

end Find

section Reading

theorem get_readOnly (k : Keyring) (key : String) : (k.get key).ReadOnly :=
  .bind (.log _ _ _) fun _ => .bind (k.find_readOnly key) fun _ => .ofExcept _

theorem has_readOnly (k : Keyring) (key : String) : (k.has key).ReadOnly := by
  refine .tryCatch (.bind (k.get_readOnly key) fun _ => .pure true) fun e => ?_
  split
  · exact .pure false
  · exact .throw e

theorem getMetadata_readOnly (k : Keyring) (key : String) : (k.getMetadata key).ReadOnly := by
  refine .tryCatch (.bind (k.find_readOnly key) fun _ => .pure _) fun e => ?_
  split
  · exact .pure _
  · exact .throw e

theorem keys_readOnly (k : Keyring) : k.keys.ReadOnly :=
  .bind (k.transport.managedItems_readOnly _ _) fun _ =>
    .bind (.ofExcept _) fun _ => .bind (.log _ _ _) fun _ => .pure _

variable (h : k.transport.Served w) (hd : w.vault.Distinct)
include h hd

theorem get_reads (key : String) :
    (k.get key).Reads w ((w.vault.lookup k.scope key).bind fun m => decode m.field.value) := by
  refine .log_bind fun w₁ h₁ => ?_
  have hfind := find_reads (h₁.served h) (h₁.distinct hd) key
  rw [h₁.lookup_eq] at hfind
  cases hl : w.vault.lookup k.scope key with
  | error e => exact (hl ▸ hfind).bind_error
  | ok m => exact (hl ▸ hfind).bind_ok fun w₂ _ => .ofExcept _ w₂

theorem has_reads (key : String) :
    (k.has key).Reads w
      (match (w.vault.lookup k.scope key).bind fun m => decode m.field.value with
        | .ok _ => .ok true
        | .error e => if e.isNotFound then .ok false else .error e) := by
  have hget := get_reads h hd key
  cases hl : (w.vault.lookup k.scope key).bind fun m => decode m.field.value with
  | ok item =>
    rw [hl] at hget
    exact .tryCatch_ok (hget.bind_ok fun w₁ _ => .pure true w₁)
  | error e =>
    rw [hl] at hget
    refine .tryCatch_error hget.bind_error fun w₁ _ => ?_
    dsimp only
    split
    · exact .pure false w₁
    · exact .throw e w₁

theorem getMetadata_reads (key : String) :
    (k.getMetadata key).Reads w
      (match w.vault.lookup k.scope key with
        | .ok m => .ok ⟨m.updatedAt⟩
        | .error e =>
          if e.isNotFound && k.policy == .zeroWhenMissing then .ok Metadata.zero
          else .error e) := by
  have hfind := find_reads h hd key
  cases hl : w.vault.lookup k.scope key with
  | ok m =>
    rw [hl] at hfind
    exact .tryCatch_ok (hfind.bind_ok fun w₁ _ => .pure _ w₁)
  | error e =>
    rw [hl] at hfind
    refine .tryCatch_error hfind.bind_error fun w₁ _ => ?_
    dsimp only
    split
    · exact .pure _ w₁
    · exact .throw e w₁

/-- The keys are those of the managed items, whatever the transport. -/
theorem keys_reads : k.keys.Reads w (k.scope.listKeys (w.vault.managedItems k.scope)) := by
  refine (Transport.managedItems_reads h hd k.scope none).bind_ok fun w₁ _ => ?_
  rw [Transport.listed_none]
  cases hl : k.scope.listKeys (w.vault.managedItems k.scope) with
  | error e => exact .bind_error (.ofExcept _ w₁)
  | ok keys => exact .bind_ok (.ofExcept _ w₁) fun w₂ _ => .log_bind fun w₃ _ => .pure keys w₃

end Reading

end Keyring

end VaultRing
