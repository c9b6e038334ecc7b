import VaultRing.Proofs.WorldFrame

/-!
What a program says to a gateway. A conversation is a run of the program in which every request is
answered somehow, whatever world may stand behind the answers; of it, the requests over HTTP are
kept with their answers.
-/
namespace VaultRing

variable {α β : Type}

/-- A request over HTTP, and the answer if there was one. -/
structure Exchange where
  request : Http.Request
  response : Option Http.Response
deriving DecidableEq

def Request.isHttp : Request → Bool
  | .http _ => true
  | _ => false

/-- With these exchanges in this order, `p` can end with `a`. -/
inductive Program.Converses : Program α → List Exchange → α → Prop where
  | done (a : α) : Program.Converses (.done a) [] a
  | http {request : Http.Request} {next : Option Http.Response → Program α}
      {exchanges : List Exchange} {a : α} (response : Option Http.Response)
      (h : (next response).Converses exchanges a) :
      Program.Converses (.ask (.http request) next) (⟨request, response⟩ :: exchanges) a
  | other {r : Request} {next : r.Answer → Program α} {exchanges : List Exchange} {a : α}
      (hr : r.isHttp = false) (answer : r.Answer) (h : (next answer).Converses exchanges a) :
      Program.Converses (.ask r next) exchanges a

namespace Program.Converses

variable {p : Program α} {exchanges : List Exchange} {a : α}

theorem of_done {b : α} (h : (Program.done b).Converses exchanges a) : exchanges = [] ∧ a = b := by
  cases h
  exact ⟨rfl, rfl⟩

theorem of_bind {f : α → Program β} {b : β} (h : (p.bind f).Converses exchanges b) :
    ∃ a first rest, exchanges = first ++ rest ∧ p.Converses first a ∧ (f a).Converses rest b := by
  induction p generalizing exchanges with
  | done a => exact ⟨a, [], exchanges, rfl, .done a, h⟩
  | ask r next ih =>
    cases h with
    | http response h =>
      obtain ⟨a, first, rest, rfl, hp, hf⟩ := ih response h
      exact ⟨a, _ :: first, rest, rfl, .http response hp, hf⟩
    | other hr answer h =>
      obtain ⟨a, first, rest, rfl, hp, hf⟩ := ih answer h
      exact ⟨a, first, rest, rfl, .other hr answer hp, hf⟩

theorem of_http {request : Http.Request} {response : Option Http.Response}
    (h : (Program.request (.http request)).Converses exchanges response) :
    exchanges = [⟨request, response⟩] := by
  cases h with
  | http response h =>
    obtain ⟨rfl, rfl⟩ := h.of_done
    rfl
  | other hr answer h => cases hr

theorem of_other {r : Request} (hr : r.isHttp = false) {answer : r.Answer}
    (h : (Program.request r).Converses exchanges answer) : exchanges = [] := by
  cases h with
  | http response h => cases hr
  | other hr answer h => exact h.of_done.1

end Program.Converses

def Action.Converses (a : Action α) (exchanges : List Exchange) (r : Except KeyringError α) :
    Prop :=
  Program.Converses (ExceptT.run a) exchanges r

namespace Action.Converses

variable {a : Action α} {exchanges : List Exchange} {r : Except KeyringError α}

theorem of_bind {f : α → Action β} {r : Except KeyringError β}
    (h : Action.Converses (a >>= f) exchanges r) :
    (∃ x first rest, exchanges = first ++ rest ∧ a.Converses first (.ok x) ∧
        (f x).Converses rest r) ∨
      ∃ e, a.Converses exchanges (.error e) ∧ r = .error e := by
  obtain ⟨result, first, rest, rfl, ha, hf⟩ := Program.Converses.of_bind h
  cases result with
  | ok x => exact .inl ⟨x, first, rest, rfl, ha, hf⟩
  | error e =>
    obtain ⟨rfl, rfl⟩ := Program.Converses.of_done hf
    rw [List.append_nil]
    exact .inr ⟨e, ha, rfl⟩

theorem of_map {f : α → β} {r : Except KeyringError β}
    (h : Action.Converses (f <$> a) exchanges r) :
    ∃ r₀, a.Converses exchanges r₀ ∧ r = r₀.map f := by
  obtain ⟨r₀, first, rest, rfl, ha, hf⟩ := Program.Converses.of_bind h
  cases r₀ with
  | ok x | error e =>
    obtain ⟨rfl, rfl⟩ := Program.Converses.of_done hf
    rw [List.append_nil]
    exact ⟨_, ha, rfl⟩

end Action.Converses

namespace Gateway

def sent (e : Exchange) : Http.Request := { e.request with url := e.request.url.withoutFragment }

theorem answer_received {g : Gateway} (hg : g.listening = true) (r : Http.Request) :
    (g.answer r).2.listening = true ∧
      (g.answer r).2.received = g.received ++ [sent ⟨r, (g.answer r).1⟩] := by
  unfold answer
  rw [if_neg (by simp [hg])]
  cases g.script with
  | nil => exact ⟨hg, rfl⟩
  | cons answer script => cases answer <;> exact ⟨hg, rfl⟩

end Gateway

theorem World.answer_gateway (w : World) {r : Request} (hr : r.isHttp = false) :
    (w.answer r).2.gateway = w.gateway := by
  cases r with
  | http request => cases hr
  | connect auth integration =>
    change (w.connect auth integration).2.gateway = _
    rw [w.connect_snd]
  | items limit call | gateway call | newSlot | isFilled slot | fill slot | environment name
  | prompt prompt text | now | log entry => rfl

/-- Every run is a conversation, and a gateway that listens receives what is said in it. -/
theorem Program.run_converses (p : Program α) (w : World) :
    ∃ exchanges, p.Converses exchanges (p.run w).1 ∧
      (w.gateway.listening = true →
        (p.run w).2.gateway.received = w.gateway.received ++ exchanges.map Gateway.sent) := by
  induction p generalizing w with
  | done a => exact ⟨[], .done a, fun _ => (List.append_nil _).symm⟩
  | ask r next ih =>
    obtain ⟨exchanges, hconv, hreceived⟩ := ih (w.answer r).1 (w.answer r).2
    cases hr : r.isHttp with
    | true =>
      cases r with
      | http request =>
        refine ⟨_, .http (w.gateway.answer request).1 hconv, fun hg => ?_⟩
        obtain ⟨hlistening, hgot⟩ := Gateway.answer_received hg request
        refine (hreceived hlistening).trans ?_
        change (w.gateway.answer request).2.received ++ _ = _
        rw [hgot, List.append_assoc]
        rfl
      | _ => cases hr
    | false =>
      have hsame := w.answer_gateway hr
      refine ⟨exchanges, .other hr (w.answer r).1 hconv, fun hg => ?_⟩
      rw [← hsame] at hg ⊢
      exact hreceived hg

end VaultRing
