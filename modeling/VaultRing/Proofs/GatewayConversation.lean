import VaultRing.Proofs.Conversation
import VaultRing.Proofs.KeyringOutcome

namespace VaultRing

variable {α β : Type}

/-- What an answer tells, if it is a success that can be read. -/
def Exchange.told? (read : Http.Response → Except TransportError α) (e : Exchange) : Option α :=
  (e.response.filter (·.isSuccess)).bind fun response => (read response).toOption

section Told

variable {read : Http.Response → Except TransportError α} {r : Http.Request}
  {response : Http.Response}

theorem Exchange.told?_success (h : response.isSuccess = true) :
    told? read ⟨r, some response⟩ = (read response).toOption := by
  simp [told?, h, Option.filter_some]

theorem Exchange.told?_refusal (h : response.isSuccess = false) :
    told? read ⟨r, some response⟩ = none := by
  simp [told?, h, Option.filter_some]

theorem Exchange.told?_eq_bind (e : Exchange) :
    e.told? read = (e.told? .ok).bind fun response => (read response).toOption := by
  simp [told?, Except.toOption]

end Told

namespace HttpClient

def Sendable (c : HttpClient) (r : Http.Request) : Prop :=
  Http.isHeaderValue c.token = true ∧ isAddress r.url = true

def requestOf (c : HttpClient) : GatewayCall → Http.Request
  | .list vaultId => c.request .get (c.collectionUrl vaultId) none
  | .listByTitle title vaultId =>
    c.request .get ((c.collectionUrl vaultId).withField "filter" (titleFilter title)) none
  | .get itemId vaultId => c.request .get (c.itemUrl vaultId itemId) none
  | .create item vaultId => c.request .post (c.collectionUrl vaultId) (some item)
  | .update item vaultId => c.request .put (c.itemUrl vaultId item.id) (some item)
  | .delete itemId vaultId => c.request .delete (c.itemUrl vaultId itemId) none

def reads : (call : GatewayCall) → Http.Response → Except TransportError call.Result
  | .list _ | .listByTitle .. => decoded GatewayItem.listOfText
  | .get .. | .create .. | .update .. => decoded GatewayItem.ofText
  | .delete .. => fun _ => .ok ()

/-- How one request goes: it is not sent, or it is sent once and the answer tells what it does. -/
inductive Asks (c : HttpClient) (r : Http.Request)
    (read : Http.Response → Except TransportError α) : List Exchange → Option α → Prop where
  | unsendable (h : ¬ c.Sendable r) : Asks c r read [] none
  | sent (e : Exchange) (hr : e.request = r) : Asks c r read [e] (e.told? read)

variable {c : HttpClient} {r : Http.Request} {exchanges : List Exchange}

theorem send_converses {result : Except TransportError Http.Response}
    (h : (c.send r).Converses exchanges result) : c.Asks r .ok exchanges result.toOption := by
  unfold send at h
  split at h
  · rename_i ht
    obtain ⟨rfl, rfl⟩ := h.of_done
    exact .unsendable fun hs => by simp [hs.1] at ht
  split at h
  · rename_i ha
    obtain ⟨rfl, rfl⟩ := h.of_done
    exact .unsendable fun hs => by simp [hs.2] at ha
  · obtain ⟨response, first, rest, rfl, hfirst, hrest⟩ := Program.Converses.of_bind h
    obtain rfl := hfirst.of_http
    cases response with
    | none =>
      obtain ⟨rfl, rfl⟩ := hrest.of_done
      exact .sent _ rfl
    | some response =>
      have hsent : c.Asks r .ok [⟨r, some response⟩] _ := .sent ⟨r, some response⟩ rfl
      dsimp only at hrest
      split at hrest
      · rename_i hs
        obtain ⟨rfl, rfl⟩ := hrest.of_done
        rwa [Exchange.told?_success hs] at hsent
      · rename_i hs
        obtain ⟨_, first, rest, rfl, hlog, hdone⟩ := Program.Converses.of_bind hrest
        obtain rfl := hlog.of_other rfl
        obtain ⟨rfl, rfl⟩ := hdone.of_done
        rwa [Exchange.told?_refusal (by simpa using hs)] at hsent

theorem call_eq_send (c : HttpClient) (call : GatewayCall) :
    c.call call =
      (c.send (c.requestOf call)).bind fun result => .done (result.bind (reads call)) := by
  cases call with
  | delete itemId vaultId =>
    refine congrArg (Program.bind _) (funext fun result => ?_)
    cases result <;> rfl
  | list vaultId | listByTitle title vaultId | get itemId vaultId | create item vaultId
  | update item vaultId => rfl

theorem Asks.bind {found : Option Http.Response}
    (read : Http.Response → Except TransportError α) (h : c.Asks r .ok exchanges found) :
    c.Asks r read exchanges (found.bind fun response => (read response).toOption) := by
  cases h with
  | unsendable h => exact .unsendable h
  | sent e hr =>
    rw [← Exchange.told?_eq_bind]
    exact .sent e hr

/-- One call is one request, sent at most once. -/
theorem call_converses {call : GatewayCall} {result : Except TransportError call.Result}
    (h : (c.call call).Converses exchanges result) :
    c.Asks (c.requestOf call) (reads call) exchanges result.toOption := by
  rw [call_eq_send] at h
  obtain ⟨response, first, rest, rfl, hsend, hdone⟩ := h.of_bind
  obtain ⟨rfl, rfl⟩ := hdone.of_done
  have hasks := (send_converses hsend).bind (reads call)
  rw [List.append_nil]
  cases response <;> exact hasks

section Asks

variable {read : Http.Response → Except TransportError α}

theorem Asks.of_none (h : c.Asks r read exchanges none) :
    exchanges = [] ∧ ¬ c.Sendable r ∨
      ∃ e, exchanges = [e] ∧ e.request = r ∧ e.told? read = none := by
  generalize hfound : none = found at h
  cases h with
  | unsendable h => exact .inl ⟨rfl, h⟩
  | sent e hr => exact .inr ⟨e, rfl, hr, rfl⟩

end Asks

end HttpClient

def Reported (r : Except KeyringError α) : Prop :=
  ∃ context source, r = .error (.transport context source)

theorem Reported.of_error {e : KeyringError} (h : Reported (.error e : Except KeyringError α)) :
    Reported (.error e : Except KeyringError β) := by
  obtain ⟨context, source, he⟩ := h
  exact ⟨context, source, congrArg Except.error (Except.error.inj he)⟩

theorem Reported.map {r : Except KeyringError α} (h : Reported r) (f : α → β) :
    Reported (r.map f) := by
  obtain ⟨context, source, rfl⟩ := h
  exact ⟨context, source, rfl⟩

namespace Transport

variable {c : HttpClient} {scope : Scope} {exchanges : List Exchange}

def managedAmong (scope : Scope) (items : List GatewayItem) : List ManagedItem :=
  items.filterMap fun item => scope.managed? item.toVaultItem

/-- If nothing has been found, the failure is told; else `f` decides. -/
def Decides (scope : Scope) (f : List ManagedItem → Except KeyringError α) :
    Option (List GatewayItem) → Except KeyringError α → Prop
  | none, r => Reported r
  | some items, r => r = f (managedAmong scope items)

theorem Decides.through {f : List ManagedItem → Except KeyringError α}
    {g : Except KeyringError α → Except KeyringError β} {found : Option (List GatewayItem)}
    {r : Except KeyringError α} (h : Decides scope f found r)
    (hg : ∀ e, e.isNotFound = false → g (.error e) = .error e) :
    Decides scope (fun items => g (f items)) found (g r) := by
  cases found with
  | none =>
    obtain ⟨context, source, rfl⟩ := h
    exact ⟨context, source, hg _ rfl⟩
  | some items => exact congrArg g h

def listing (c : HttpClient) (scope : Scope) : Option String → Http.Request
  | some title => c.requestOf (.listByTitle title scope.vaultId)
  | none => c.requestOf (.list scope.vaultId)

end Transport

namespace Keyring

variable {k : Keyring} {c : HttpClient} {scope : Scope} {policy : MetadataPolicy} {key : String}
  {exchanges : List Exchange}

section Reading

end Reading

end Keyring

end VaultRing
