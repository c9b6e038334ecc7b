import VaultRing.Proofs.KeyringEffect

namespace VaultRing

variable {α β : Type} {P : Request → Prop}

/-- Every request that `p` makes is among `P`, whatever the earlier ones have been answered. -/
def Program.AsksOnly (P : Request → Prop) : Program α → Prop
  | .done _ => True
  | .ask r next => P r ∧ ∀ answer, (next answer).AsksOnly P

def Action.AsksOnly (P : Request → Prop) (a : Action α) : Prop :=
  Program.AsksOnly P (ExceptT.run a)

namespace Program.AsksOnly

theorem request {r : Request} (h : P r) : (Program.request r).AsksOnly P := ⟨h, fun _ => trivial⟩

theorem bind {p : Program α} {f : α → Program β} (hp : p.AsksOnly P)
    (hf : ∀ a, (f a).AsksOnly P) : (p.bind f).AsksOnly P := by
  induction p with
  | done a => exact hf a
  | ask r next ih => exact ⟨hp.1, fun answer => ih answer (hp.2 answer)⟩

theorem mono {Q : Request → Prop} {p : Program α} (hp : p.AsksOnly P) (h : ∀ r, P r → Q r) :
    p.AsksOnly Q := by
  induction p with
  | done a => trivial
  | ask r next ih => exact ⟨h r hp.1, fun answer => ih answer (hp.2 answer)⟩

end Program.AsksOnly

namespace Action.AsksOnly

theorem pure (x : α) : Action.AsksOnly P (Pure.pure x : Action α) := trivial

theorem throw (e : KeyringError) : Action.AsksOnly P (MonadExcept.throw e : Action α) := trivial

theorem ofExcept (e : Except KeyringError α) : Action.AsksOnly P (Action.ofExcept e) := trivial

theorem perform {p : Program α} (hp : p.AsksOnly P) : Action.AsksOnly P (Action.perform p) :=
  hp.bind fun _ => trivial

theorem orFail {ε : Type} {p : Program (Except ε α)} (wrap : ε → KeyringError)
    (hp : p.AsksOnly P) : Action.AsksOnly P (Action.orFail p wrap) := hp.bind fun _ => trivial

theorem bind {a : Action α} {f : α → Action β} (ha : a.AsksOnly P) (hf : ∀ x, (f x).AsksOnly P) :
    Action.AsksOnly P (a >>= f) := by
  refine Program.AsksOnly.bind ha fun result => ?_
  cases result with
  | ok x => exact hf x
  | error e => trivial

theorem map {a : Action α} (f : α → β) (ha : a.AsksOnly P) : Action.AsksOnly P (f <$> a) := by
  refine Program.AsksOnly.bind ha fun result => ?_
  cases result <;> trivial

theorem tryCatch {a : Action α} {handle : KeyringError → Action α} (ha : a.AsksOnly P)
    (hh : ∀ e, (handle e).AsksOnly P) :
    Action.AsksOnly P (MonadExcept.tryCatch a handle) := by
  refine Program.AsksOnly.bind ha fun result => ?_
  cases result with
  | ok x => trivial
  | error e => exact hh e

theorem mono {Q : Request → Prop} {a : Action α} (ha : a.AsksOnly P) (h : ∀ r, P r → Q r) :
    a.AsksOnly Q := Program.AsksOnly.mono ha h

end Action.AsksOnly

section Slots

theorem World.mem_filled_answer {w : World} {r : Request} {slot : Slot} (h : r ≠ .fill slot) :
    slot ∈ (w.answer r).2.filled ↔ slot ∈ w.filled := by
  cases r with
  | fill other =>
    have hne : slot ≠ other := fun he => h (he ▸ rfl)
    change slot ∈ other :: w.filled ↔ _
    rw [List.mem_cons, or_iff_right hne]
  | connect auth integration =>
    change slot ∈ (w.connect auth integration).2.filled ↔ _
    rw [w.connect_snd]
  | items limit call | gateway call | http request | newSlot | isFilled other | environment name
  | prompt prompt text | now | log entry => exact Iff.rfl

theorem Program.AsksOnly.mem_filled_run {p : Program α} (hp : p.AsksOnly P) {slot : Slot}
    (hs : ¬ P (.fill slot)) (w : World) : slot ∈ (p.run w).2.filled ↔ slot ∈ w.filled := by
  induction p generalizing w with
  | done a => exact Iff.rfl
  | ask r next ih =>
    have hne : r ≠ .fill slot := fun he => hs (he ▸ hp.1)
    exact (ih _ (hp.2 _) _).trans (World.mem_filled_answer hne)

/-- Whatever a program does, a slot that has been filled is not lost. -/
theorem Program.filled_run {p : Program α} {w : World} {slot : Slot} (h : slot ∈ w.filled) :
    slot ∈ (p.run w).2.filled := by
  induction p generalizing w with
  | done a => exact h
  | ask r next ih =>
    refine ih _ ?_
    by_cases hr : r = .fill slot
    · rw [hr]
      exact List.mem_cons_self
    · exact (World.mem_filled_answer hr).mpr h

end Slots

def Request.AsksForCredentials : Request → Prop
  | .environment _ | .prompt .. => True
  | _ => False

/-- What is of use to a transport, whose own slot is the only one that it fills. -/
def Transport.MayAsk : Transport → Request → Prop
  | _, .now | _, .log _ => True
  | .standard _ limit, .items bound _ | .lazy _ _ _ limit, .items bound _ => bound = some limit
  | .lazy slot _ _ _, .isFilled asked | .lazy slot _ _ _, .fill asked => asked = slot
  | .lazy .., .connect .. | .lazy .., .environment _ | .lazy .., .prompt .. => True
  | .connect .vault, .gateway _ => True
  | .connect (.http _), .http _ => True
  | _, _ => False

def Transport.slot? : Transport → Option Slot
  | .lazy slot .. => some slot
  | .standard .. | .connect _ => none

theorem Transport.MayAsk.slot {t : Transport} {slot : Slot} (h : t.MayAsk (.fill slot)) :
    t.slot? = some slot := by
  cases t with
  | lazy own backend auth limit => exact congrArg some (show slot = own from h).symm
  | standard backend limit => exact absurd h id
  | connect client => cases client <;> exact absurd h id

theorem Transport.log_asksOnly (t : Transport) (level : LogLevel) (source : LogSource)
    (message : String) : (Action.log level source message).AsksOnly t.MayAsk :=
  .perform (.request (by cases t <;> trivial))

theorem Transport.now_asksOnly (t : Transport) :
    (Action.perform Program.now).AsksOnly t.MayAsk :=
  .perform (.request (by cases t <;> trivial))

namespace Transport

section Lazy

variable {slot : Slot} {backend : Backend} {limit : Duration}

theorem firstSet_asksOnly (names : List String) :
    (TokenSource.firstSet names).AsksOnly Request.AsksForCredentials := by
  induction names with
  | nil => trivial
  | cons name names ih =>
    refine Program.AsksOnly.bind (.request trivial) fun value => ?_
    cases value with
    | some token => trivial
    | none => exact ih

theorem resolve_asksOnly (auth : LazyAuth) : auth.resolve.AsksOnly Request.AsksForCredentials := by
  cases auth with
  | desktop account => exact .pure _
  | serviceAccount tokens =>
    refine .map _ (.bind (.perform (firstSet_asksOnly _)) fun token? => ?_)
    cases token? with
    | some token => exact .pure token
    | none =>
      cases tokens.prompt with
      | none => exact .throw _
      | some prompt => exact .orFail _ (.request trivial)

theorem mayAsk_of_asksForCredentials {auth : LazyAuth} {r : Request} (h : r.AsksForCredentials) :
    (Transport.lazy slot backend auth limit).MayAsk r := by
  cases r with
  | environment name | prompt prompt text => trivial
  | _ => exact absurd h id

theorem connectClient_asksOnly (auth : LazyAuth) (a : ClientAuth) :
    (connectClient slot backend a).AsksOnly (Transport.lazy slot backend auth limit).MayAsk := by
  refine .bind (.perform (.request trivial)) fun result => ?_
  cases result with
  | ok => exact .perform (.request rfl)
  | error source => exact .bind (log_asksOnly _ _ _ _) fun _ => .throw _

theorem buildClient_asksOnly (auth : LazyAuth) :
    (buildClient slot backend auth).AsksOnly (Transport.lazy slot backend auth limit).MayAsk := by
  refine .bind ((resolve_asksOnly auth).mono fun _ => mayAsk_of_asksForCredentials) fun a => ?_
  exact .bind (log_asksOnly _ _ _ _) fun _ => connectClient_asksOnly auth a

theorem ensureClient_asksOnly (auth : LazyAuth) :
    (ensureClient slot backend auth).AsksOnly (Transport.lazy slot backend auth limit).MayAsk := by
  refine .bind (.perform (.request rfl)) fun filled => ?_
  split
  · exact .pure ()
  · exact buildClient_asksOnly auth

end Lazy

section Sdk

variable {limit : Duration} {scope : Scope} (h : ∀ call, P (.items (some limit) call))
include h

theorem itemsCall_asksOnly (context : String) (call : ItemsCall) :
    (itemsCall limit context call).AsksOnly P := .orFail _ (.request (h call))

theorem fetchItems_asksOnly (overviews : List Overview) :
    (fetchItems limit scope overviews).AsksOnly P := by
  induction overviews with
  | nil => exact .pure []
  | cons o overviews ih =>
    unfold fetchItems
    split
    · exact ih
    · exact .bind (itemsCall_asksOnly h _ _) fun item => .bind ih fun others => .pure _

theorem listItems_asksOnly : (listItems limit scope).AsksOnly P :=
  .bind (itemsCall_asksOnly h _ _) fun overviews => fetchItems_asksOnly h overviews

theorem createItem_asksOnly (title value : String) :
    (createItem limit scope title value).AsksOnly P :=
  .bind (itemsCall_asksOnly h _ _) fun _ => .pure ()

theorem putItem_asksOnly (item : ManagedItem) : (putItem limit scope item).AsksOnly P :=
  .bind (itemsCall_asksOnly h _ _) fun _ => .pure ()

end Sdk

section Gateway

variable {scope : Scope} (client : GatewayClient)

theorem httpSend_asksOnly (c : HttpClient) (r : Http.Request) :
    (c.send r).AsksOnly (Transport.connect (.http c)).MayAsk := by
  unfold HttpClient.send
  split
  · trivial
  split
  · trivial
  · refine Program.AsksOnly.bind (.request trivial) fun response => ?_
    cases response with
    | none => trivial
    | some response =>
      dsimp only
      split
      · trivial
      · exact Program.AsksOnly.bind (.request trivial) fun _ => trivial

theorem httpCall_asksOnly (c : HttpClient) (call : GatewayCall) :
    (c.call call).AsksOnly (Transport.connect (.http c)).MayAsk := by
  cases call <;> exact Program.AsksOnly.bind (httpSend_asksOnly c _) fun _ => trivial

theorem gatewayCall_asksOnly (context : String) (call : GatewayCall) :
    (gatewayCall client context call).AsksOnly (Transport.connect client).MayAsk := by
  cases client with
  | vault => exact .orFail _ (.request trivial)
  | http c => exact .orFail _ (httpCall_asksOnly c call)

theorem fetchGatewayItems_asksOnly (overviews : List GatewayItem) :
    (fetchGatewayItems client scope overviews).AsksOnly (Transport.connect client).MayAsk := by
  induction overviews with
  | nil => exact .pure []
  | cons o overviews ih =>
    unfold fetchGatewayItems
    split
    · exact ih
    · exact .bind (gatewayCall_asksOnly client _ _) fun item => .bind ih fun others => .pure _

theorem listGatewayItems_asksOnly (title : Option String) :
    (listGatewayItems client scope title).AsksOnly (Transport.connect client).MayAsk := by
  unfold listGatewayItems
  cases title with
  | some title =>
    exact .bind (gatewayCall_asksOnly client _ _) fun _ => fetchGatewayItems_asksOnly client _
  | none =>
    exact .bind (gatewayCall_asksOnly client _ _) fun _ => fetchGatewayItems_asksOnly client _

end Gateway

variable (t : Transport) (scope : Scope)

theorem managedItems_asksOnly (title : Option String) :
    (t.managedItems scope title).AsksOnly t.MayAsk := by
  cases t with
  | standard backend limit => exact listItems_asksOnly fun _ => rfl
  | lazy slot backend auth limit =>
    exact .bind (ensureClient_asksOnly auth) fun _ => listItems_asksOnly fun _ => rfl
  | connect client => exact listGatewayItems_asksOnly client title

theorem create_asksOnly (title value : String) :
    (t.create scope title value).AsksOnly t.MayAsk := by
  cases t with
  | standard backend limit => exact createItem_asksOnly (fun _ => rfl) title value
  | lazy slot backend auth limit =>
    exact .bind (ensureClient_asksOnly auth) fun _ => createItem_asksOnly (fun _ => rfl) title value
  | connect client => exact .bind (gatewayCall_asksOnly client _ _) fun _ => .pure ()

theorem update_asksOnly (item : ManagedItem) : (t.update scope item).AsksOnly t.MayAsk := by
  cases t with
  | standard backend limit => exact putItem_asksOnly (fun _ => rfl) item
  | lazy slot backend auth limit =>
    exact .bind (ensureClient_asksOnly auth) fun _ => putItem_asksOnly (fun _ => rfl) item
  | connect client => exact .bind (gatewayCall_asksOnly client _ _) fun _ => .pure ()

theorem delete_asksOnly (itemId : String) : (t.delete scope itemId).AsksOnly t.MayAsk := by
  cases t with
  | standard backend limit => exact itemsCall_asksOnly (fun _ => rfl) _ _
  | lazy slot backend auth limit =>
    exact .bind (ensureClient_asksOnly auth) fun _ => itemsCall_asksOnly (fun _ => rfl) _ _
  | connect client => exact gatewayCall_asksOnly client _ _

end Transport

namespace Keyring

variable (k : Keyring)

theorem log_asksOnly (level : LogLevel) (message : String) :
    (k.log level message).AsksOnly k.transport.MayAsk := k.transport.log_asksOnly _ _ _

theorem find_asksOnly (key : String) : (k.find key).AsksOnly k.transport.MayAsk :=
  .bind (k.transport.managedItems_asksOnly _ _) fun _ => .ofExcept _

theorem get_asksOnly (key : String) : (k.get key).AsksOnly k.transport.MayAsk :=
  .bind (k.log_asksOnly _ _) fun _ => .bind (k.find_asksOnly key) fun _ => .ofExcept _

theorem has_asksOnly (key : String) : (k.has key).AsksOnly k.transport.MayAsk := by
  refine .tryCatch (.bind (k.get_asksOnly key) fun _ => .pure true) fun e => ?_
  split
  · exact .pure false
  · exact .throw e

theorem getMetadata_asksOnly (key : String) : (k.getMetadata key).AsksOnly k.transport.MayAsk := by
  refine .tryCatch (.bind (k.find_asksOnly key) fun _ => .pure _) fun e => ?_
  split
  · exact .pure _
  · exact .throw e

theorem find?_asksOnly (key : String) : (k.find? key).AsksOnly k.transport.MayAsk := by
  refine .tryCatch (.map some (k.find_asksOnly key)) fun e => ?_
  split
  · exact .pure none
  · exact .bind (k.log_asksOnly _ _) fun _ => .throw e

theorem set_asksOnly (item : Item) : (k.set item).AsksOnly k.transport.MayAsk := by
  refine .bind (k.find?_asksOnly item.key) fun existing => ?_
  cases existing with
  | none => exact .bind (k.log_asksOnly _ _) fun _ => k.transport.create_asksOnly _ _ _
  | some found =>
    exact .bind (k.log_asksOnly _ _) fun _ =>
      .bind k.transport.now_asksOnly fun _ => k.transport.update_asksOnly _ _

theorem remove_asksOnly (key : String) : (k.remove key).AsksOnly k.transport.MayAsk :=
  .bind (k.find_asksOnly key) fun _ => .bind (k.log_asksOnly _ _) fun _ =>
    k.transport.delete_asksOnly _ _

theorem keys_asksOnly : k.keys.AsksOnly k.transport.MayAsk :=
  .bind (k.transport.managedItems_asksOnly _ _) fun _ => .bind (.ofExcept _) fun _ =>
    .bind (k.log_asksOnly _ _) fun _ => .pure _

theorem perform_asksOnly (operation : Operation) :
    (k.perform operation).AsksOnly k.transport.MayAsk := by
  cases operation with
  | get key => exact .map _ (k.get_asksOnly key)
  | has key => exact .map _ (k.has_asksOnly key)
  | getMetadata key => exact .map _ (k.getMetadata_asksOnly key)
  | set item => exact .map _ (k.set_asksOnly item)
  | remove key => exact .map _ (k.remove_asksOnly key)
  | keys => exact .map _ k.keys_asksOnly

/-- The slots of other transports stay as they are, filled or empty. -/
theorem mem_filled_perform {slot : Slot} (h : k.transport.slot? ≠ some slot) (operation : Operation)
    (w : World) :
    slot ∈ (Action.run (k.perform operation) w).2.filled ↔ slot ∈ w.filled :=
  (k.perform_asksOnly operation).mem_filled_run (fun hf => h hf.slot) w

end Keyring

end VaultRing
