import VaultRing.Program
import VaultRing.Vault.Memory

/-!
A world to run programs in: a vault in memory, a connector of SDK clients to it, a scripted
gateway, environment variables, a user, a clock that stands still and a log.
-/
namespace VaultRing

inductive ScriptedAnswer where
  | respond (response : Http.Response)
  | drop

/-- Answers one request after the other as its script says. -/
structure Gateway where
  listening : Bool
  script : List ScriptedAnswer
  received : List Http.Request

structure World where
  vault : MemoryVault
  connectorFailure : Option String
  /-- Every attempt to build a client, failed ones included. -/
  attempts : List (ClientAuth × Integration)
  slots : Nat
  filled : List Slot
  environment : Environment
  gateway : Gateway
  prompted : List String
  clock : Timestamp
  logger : Logger

namespace Gateway

def silent : Gateway := ⟨false, [], []⟩

def unavailable : Http.Response := ⟨503, some ""⟩

def hasBody (status : Nat) : Bool := status != 204 && status != 304

def delivered (response : Http.Response) : Http.Response :=
  if hasBody response.status then response else { response with body := some "" }

def answer (g : Gateway) (r : Http.Request) : Option Http.Response × Gateway :=
  if !g.listening then (none, g)
  else
    let received := g.received ++ [{ r with url := r.url.withoutFragment }]
    match g.script with
    | [] => (some unavailable, { g with received })
    | .drop :: script => (none, { g with script, received })
    | .respond response :: script => (some (delivered response), { g with script, received })

end Gateway

namespace World

def ofVault (vault : MemoryVault) (clock : Timestamp) : World where
  vault := vault
  connectorFailure := none
  attempts := []
  slots := 0
  filled := []
  environment := Environment.empty
  gateway := Gateway.silent
  prompted := []
  clock := clock
  logger := Logger.disabled

/-- Whom a client has been asked for, attempt by attempt. -/
def connects (w : World) : List ClientAuth := w.attempts.map (·.1)

def connect (w : World) (auth : ClientAuth) (integration : Integration) :
    Except TransportError Unit × World :=
  let w := { w with attempts := w.attempts ++ [(auth, integration)] }
  match w.connectorFailure with
  | some message => (.error (.client message), w)
  | none => (.ok (), w)

def answer (w : World) : (r : Request) → r.Answer × World
  | .items limit call =>
    let (result, vault) := w.vault.answerItems w.clock limit call
    (result, { w with vault })
  | .gateway call =>
    let (result, vault) := w.vault.answerGateway w.clock call
    (result, { w with vault })
  | .http request =>
    let (response, gateway) := w.gateway.answer request
    (response, { w with gateway })
  | .connect auth integration => w.connect auth integration
  | .newSlot => (w.slots, { w with slots := w.slots + 1 })
  | .isFilled slot => (w.filled.contains slot, w)
  | .fill slot => ((), { w with filled := slot :: w.filled })
  | .environment name => (w.environment.value? name, w)
  | .prompt prompt text => (prompt.ask text, { w with prompted := w.prompted ++ [text] })
  | .now => (w.clock, w)
  | .log entry => ((), { w with logger := w.logger.add entry })

end World

def Program.run {α : Type} : Program α → World → α × World
  | .done a, w => (a, w)
  | .ask r next, w =>
    let (answer, w) := w.answer r
    (next answer).run w

def Action.run {α : Type} (a : Action α) (w : World) : Except KeyringError α × World :=
  Program.run (ExceptT.run a) w

end VaultRing
