import Mathlib.Data.Option.Basic
import VaultRing.Proofs.AlikeOperations
import VaultRing.Proofs.KeyringOutcome

namespace VaultRing

variable {vars : List String}

structure TokenSource.SameButTokens (vars : List String) (s s' : TokenSource) : Prop where
  backend : s.backend = s'.backend
  names : s.names = s'.names
  taken : ∀ name ∈ s.names, name ∈ vars
  prompt : Option.Rel Prompt.SameButTokens s.prompt s'.prompt

inductive LazyAuth.SameButTokens (vars : List String) : LazyAuth → LazyAuth → Prop where
  | desktop (account : String) : LazyAuth.SameButTokens vars (.desktop account) (.desktop account)
  | serviceAccount {tokens tokens' : TokenSource} (h : tokens.SameButTokens vars tokens') :
      LazyAuth.SameButTokens vars (.serviceAccount tokens) (.serviceAccount tokens')

inductive Transport.SameButTokens (vars : List String) : Transport → Transport → Prop where
  | standard (backend : Backend) (limit : Duration) :
      Transport.SameButTokens vars (.standard backend limit) (.standard backend limit)
  | lazy (slot : Slot) (backend : Backend) (limit : Duration) {auth auth' : LazyAuth}
      (h : auth.SameButTokens vars auth') :
      Transport.SameButTokens vars (.lazy slot backend auth limit) (.lazy slot backend auth' limit)
  | vault : Transport.SameButTokens vars (.connect .vault) (.connect .vault)
  | http (client client' : HttpClient) :
      Transport.SameButTokens vars (.connect (.http client)) (.connect (.http client'))

structure Keyring.SameButTokens (vars : List String) (k k' : Keyring) : Prop where
  scope : k.scope = k'.scope
  transport : k.transport.SameButTokens vars k'.transport
  policy : k.policy = k'.policy

/-- The same operation, or storing as many bytes under the same key. -/
inductive Operation.SameButBytes : Operation → Operation → Prop where
  | refl (operation : Operation) : Operation.SameButBytes operation operation
  | set {item item' : Item} (key : item.key = item'.key)
      (length : item.data.length = item'.data.length) :
      Operation.SameButBytes (.set item) (.set item')

section Credentials

theorem TokenSource.resolve_alike {s s' : TokenSource} (h : s.SameButTokens vars s')
    (text : String) : (s.resolve text).Alike vars Anyhow (s'.resolve text) := by
  obtain ⟨backend, names, prompt⟩ := s
  obtain ⟨backend', names', prompt'⟩ := s'
  obtain ⟨rfl, rfl, hnames, hprompt⟩ := h
  refine (Action.Couples.perform (firstSet_alike hnames)).bind fun token token' htoken => ?_
  match token, token', htoken with
  | some token, some token', _ => exact .pure trivial
  | none, none, _ =>
    cases hprompt with
    | some h => exact .orFail (Program.prompt_alike h text) _
    | none => exact .throw _

/-- Both show up alike, for tokens are not shown. -/
theorem LazyAuth.resolve_alike {auth auth' : LazyAuth} (h : auth.SameButTokens vars auth') :
    auth.resolve.Alike vars (fun a a' => a.shown = a'.shown) auth'.resolve := by
  cases h with
  | desktop account => exact .pure rfl
  | serviceAccount h => exact (TokenSource.resolve_alike h _).map fun _ _ _ => rfl

end Credentials

namespace Transport

theorem connectClient_alike (slot : Slot) (backend : Backend) (a a' : ClientAuth) :
    (connectClient slot backend a).Alike vars Eq (connectClient slot backend a') := by
  refine (Action.Couples.perform (Program.connect_alike a a' _)).bind_same fun result => ?_
  cases result with
  | ok => exact .perform (Program.fill_alike slot)
  | error source => exact (Action.log_alike _ _ _).bind_same fun _ => .throw _

theorem ensureClient_alike (slot : Slot) (backend : Backend) {auth auth' : LazyAuth}
    (h : auth.SameButTokens vars auth') :
    (ensureClient slot backend auth).Alike vars Eq (ensureClient slot backend auth') := by
  refine (Action.Couples.perform (Program.isFilled_alike slot)).bind_same fun filled => ?_
  split
  · exact .pure rfl
  refine (LazyAuth.resolve_alike h).bind fun a a' ha => ?_
  rw [ha]
  exact (Action.log_alike _ _ _).bind_same fun _ => connectClient_alike slot backend a a'

variable {t t' : Transport} {scope : Scope}

theorem SameButTokens.backend_eq (h : t.SameButTokens vars t') : t.backend = t'.backend := by
  cases h <;> rfl

theorem managedItems_alike (h : t.SameButTokens vars t') (ho : t.OverVault)
    (title : Option String) :
    (t.managedItems scope title).Alike vars MaskedAlike (t'.managedItems scope title) := by
  cases h with
  | standard backend limit => exact listItems_alike
  | lazy slot backend limit h =>
    exact (ensureClient_alike slot backend h).bind_same fun _ => listItems_alike
  | vault => exact listGatewayItems_alike title
  | http client client' => exact absurd ho id

theorem create_alike (h : t.SameButTokens vars t') (ho : t.OverVault)
    (title value value' : String) :
    (t.create scope title value).Alike vars Eq (t'.create scope title value') := by
  cases h with
  | standard backend limit => exact createItem_alike title value value'
  | lazy slot backend limit h =>
    exact (ensureClient_alike slot backend h).bind_same fun _ => createItem_alike title value value'
  | vault => exact createGatewayItem_alike title value value'
  | http client client' => exact absurd ho id

theorem update_alike (h : t.SameButTokens vars t') (ho : t.OverVault) {m m' : ManagedItem}
    (hm : m.masked = m'.masked) : (t.update scope m).Alike vars Eq (t'.update scope m') := by
  cases h with
  | standard backend limit => exact putItem_alike hm
  | lazy slot backend limit h =>
    exact (ensureClient_alike slot backend h).bind_same fun _ => putItem_alike hm
  | vault => exact updateGatewayItem_alike hm
  | http client client' => exact absurd ho id

theorem delete_alike (h : t.SameButTokens vars t') (ho : t.OverVault) (itemId : String) :
    (t.delete scope itemId).Alike vars Eq (t'.delete scope itemId) := by
  cases h with
  | standard backend limit => exact deleteItem_alike itemId
  | lazy slot backend limit h =>
    exact (ensureClient_alike slot backend h).bind_same fun _ => deleteItem_alike itemId
  | vault => exact deleteGatewayItem_alike itemId
  | http client client' => exact absurd ho id

end Transport

namespace Keyring

section Lookup

theorem findByKey_alike {scope : Scope} {items items' : List ManagedItem}
    (h : MaskedAlike items items') (key : String) :
    ResultsAlike (fun m m' : ManagedItem => m.masked = m'.masked) (scope.findByKey items key)
      (scope.findByKey items' key) := by
  apply ResultsAlike.of_map_eq
  rw [← scope.findByKey_masked, ← scope.findByKey_masked, h]

theorem listKeys_alike {scope : Scope} {items items' : List ManagedItem}
    (h : MaskedAlike items items') : scope.listKeys items = scope.listKeys items' := by
  rw [← scope.listKeys_masked, h, scope.listKeys_masked]

end Lookup

variable {t t' : Transport} {scope : Scope} {policy : MetadataPolicy}

theorem name_alike (h : t.SameButTokens vars t') :
    name ⟨scope, t, policy⟩ = name ⟨scope, t', policy⟩ :=
  congrArg Backend.name h.backend_eq

theorem log_alike (h : t.SameButTokens vars t') (level : LogLevel) (message : String) :
    (log ⟨scope, t, policy⟩ level message).Alike vars Eq
      (log ⟨scope, t', policy⟩ level message) := by
  unfold log
  rw [name_alike h]
  exact Action.log_alike _ _ _

theorem has_run (k : Keyring) (key : String) (w : World) :
    Action.run (k.has key) w =
      (presence (Action.run (k.get key) w).1, (Action.run (k.get key) w).2) := by
  unfold has
  rw [Action.run_tryCatch, Action.run_bind]
  cases hget : Action.run (k.get key) w with
  | mk result w' =>
    cases result with
    | ok item => rfl
    | error e =>
      cases hn : e.isNotFound <;> simp only [presence, hn] <;> rfl

section Operations

variable (h : t.SameButTokens vars t') (ho : t.OverVault)
include h ho

theorem find_alike (key : String) :
    (find ⟨scope, t, policy⟩ key).Alike vars (fun m m' => m.masked = m'.masked)
      (find ⟨scope, t', policy⟩ key) :=
  (Transport.managedItems_alike h ho _).bind fun _ _ hitems =>
    .ofExcept (findByKey_alike hitems key)

/-- A value may be decoded in the one world and not in the other. -/
theorem get_leaveAlike (key : String) :
    (get ⟨scope, t, policy⟩ key).LeaveAlike vars (get ⟨scope, t', policy⟩ key) := by
  refine .bind (log_alike h _ _) fun _ _ _ => ?_
  exact .bind (find_alike h ho key) fun _ _ _ => .ofExcept _ _

theorem has_leaveAlike (key : String) :
    (has ⟨scope, t, policy⟩ key).LeaveAlike vars (has ⟨scope, t', policy⟩ key) :=
  (get_leaveAlike h ho key).andThen (has_run _ key) (has_run _ key)

/-- The items may have been written at different times. -/
theorem getMetadata_alike (key : String) :
    (getMetadata ⟨scope, t, policy⟩ key).Alike vars Anyhow
      (getMetadata ⟨scope, t', policy⟩ key) := by
  refine .tryCatch ?_ fun e => ?_
  · exact (find_alike h ho key).bind fun _ _ _ => .pure trivial
  · split
    · exact .pure trivial
    · exact .throw e

theorem find?_alike (key : String) :
    (find? ⟨scope, t, policy⟩ key).Alike vars
      (fun m m' => m.map ManagedItem.masked = m'.map ManagedItem.masked)
      (find? ⟨scope, t', policy⟩ key) := by
  refine .tryCatch ?_ fun e => ?_
  · exact (find_alike h ho key).map fun m m' hm => congrArg some hm
  · split
    · exact .pure rfl
    · exact (log_alike h _ _).bind_same fun _ => .throw e

theorem set_alike {item item' : Item} (hkey : item.key = item'.key)
    (hlength : item.data.length = item'.data.length) :
    (set ⟨scope, t, policy⟩ item).Alike vars Eq (set ⟨scope, t', policy⟩ item') := by
  -- The log tells how long the value is.
  have hsize : (Payload.write item).utf8ByteSize = (Payload.write item').utf8ByteSize := by
    rw [Payload.utf8ByteSize_write, Payload.utf8ByteSize_write, hkey, hlength]
  unfold set
  rw [← hkey]
  refine (find?_alike h ho item.key).bind fun existing existing' hexisting => ?_
  cases existing with
  | none =>
    cases existing' with
    | some m' => cases hexisting
    | none =>
      dsimp only
      rw [← hsize]
      exact (log_alike h _ _).bind_same fun _ => Transport.create_alike h ho _ _ _
  | some m =>
    cases existing' with
    | none => cases hexisting
    | some m' =>
      have hm : m.masked = m'.masked := Option.some.inj hexisting
      refine Action.Couples.bind_same ?_ fun _ => ?_
      · rw [← ManagedItem.id_of_masked hm]
        exact log_alike h _ _
      · refine (Action.Couples.perform Program.now_alike).bind fun now now' _ => ?_
        exact Transport.update_alike h ho (ManagedItem.revalued_masked hm now now' _ _)

theorem remove_alike (key : String) :
    (remove ⟨scope, t, policy⟩ key).Alike vars Eq (remove ⟨scope, t', policy⟩ key) := by
  refine (find_alike h ho key).bind fun m m' hm => ?_
  rw [← ManagedItem.id_of_masked hm]
  exact (log_alike h _ _).bind_same fun _ => Transport.delete_alike h ho m.id

theorem keys_alike : (keys ⟨scope, t, policy⟩).Alike vars Eq (keys ⟨scope, t', policy⟩) := by
  refine (Transport.managedItems_alike h ho none).bind fun items items' hitems => ?_
  rw [← listKeys_alike hitems]
  exact (Action.Couples.ofExcept .of_eq).bind_same fun keys =>
    (log_alike h _ _).bind_same fun _ => .pure rfl

end Operations

theorem perform_leaveAlike {k k' : Keyring} (h : k.SameButTokens vars k')
    (ho : k.transport.OverVault) {operation operation' : Operation}
    (hop : operation.SameButBytes operation') :
    (k.perform operation).LeaveAlike vars (k'.perform operation') := by
  obtain ⟨scope, t, policy⟩ := k
  obtain ⟨scope', t', policy'⟩ := k'
  obtain ⟨rfl, ht, rfl⟩ := h
  cases hop with
  | set hkey hlength =>
    exact .of_alike
      ((set_alike ht ho hkey hlength).map fun _ _ _ => (rfl : Answer.done = Answer.done))
  | refl operation =>
    cases operation with
    | get key => exact (get_leaveAlike ht ho key).andThen (Action.run_map _ _) (Action.run_map _ _)
    | has key => exact (has_leaveAlike ht ho key).andThen (Action.run_map _ _) (Action.run_map _ _)
    | getMetadata key =>
      exact .of_alike (S := Anyhow) ((getMetadata_alike ht ho key).map fun _ _ _ => trivial)
    | set item =>
      exact .of_alike ((set_alike ht ho rfl rfl).map fun _ _ _ => (rfl : Answer.done = Answer.done))
    | remove key =>
      exact .of_alike ((remove_alike ht ho key).map fun _ _ _ => (rfl : Answer.done = Answer.done))
    | keys => exact .of_alike ((keys_alike ht ho).map fun _ _ hk => congrArg Answer.keys hk)

end Keyring

end VaultRing
