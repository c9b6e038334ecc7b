import VaultRing.Http
import VaultRing.Log
import VaultRing.Vault.Call

/-!
Programs that ask the world for something and go on with its answer. Everything a keyring does is
such a program; what the world is like is left open.
-/
namespace VaultRing

structure Prompt where
  ask : String → Except PromptFailure String

/-- The place of a client that is built on first use. -/
abbrev Slot := Nat

inductive Request where
  | items (limit : Option Duration) (call : ItemsCall)
  | gateway (call : GatewayCall)
  | http (request : Http.Request)
  /-- A client is to be built; the service is told who asks. -/
  | connect (auth : ClientAuth) (integration : Integration)
  | newSlot
  | isFilled (slot : Slot)
  | fill (slot : Slot)
  | environment (name : String)
  | prompt (prompt : Prompt) (text : String)
  | now
  | log (entry : LogEntry)

def Request.Answer : Request → Type
  | .items _ call => Except TransportError call.Result
  | .gateway call => Except TransportError call.Result
  | .http _ => Option Http.Response
  | .connect .. => Except TransportError Unit
  | .newSlot => Slot
  | .isFilled _ => Bool
  | .fill _ => Unit
  | .environment _ => Option String
  | .prompt .. => Except PromptFailure String
  | .now => Timestamp
  | .log _ => Unit

inductive Program (α : Type) : Type where
  | done (a : α)
  | ask (r : Request) (next : r.Answer → Program α)

namespace Program

variable {α β : Type}

def bind (p : Program α) (f : α → Program β) : Program β :=
  match p with
  | .done a => f a
  | .ask r next => .ask r fun answer => (next answer).bind f

instance : Monad Program where
  pure := .done
  bind := bind

def request (r : Request) : Program r.Answer := .ask r .done

/-- The value of an environment variable that is set and not empty. -/
def lookup (name : String) : Program (Option String) := request (.environment name)

def now : Program Timestamp := request .now

def connect (auth : ClientAuth) (integration : Integration) :
    Program (Except TransportError Unit) := request (.connect auth integration)

def newSlot : Program Slot := request .newSlot

def isFilled (slot : Slot) : Program Bool := request (.isFilled slot)

def fill (slot : Slot) : Program Unit := request (.fill slot)

def log (level : LogLevel) (source : LogSource) (message : String) : Program Unit :=
  request (.log ⟨level, source, message⟩)

end Program

abbrev Action := ExceptT KeyringError Program

namespace Action

variable {α : Type}

def perform (p : Program α) : Action α := ExceptT.lift p

def ofExcept (e : Except KeyringError α) : Action α := ExceptT.mk (pure e)

/-- Goes on with the result of `p`, whose failure is told by `wrap`. -/
def orFail {ε : Type} (p : Program (Except ε α)) (wrap : ε → KeyringError) : Action α :=
  ExceptT.mk (p.bind fun result => .done (result.mapError wrap))

def log (level : LogLevel) (source : LogSource) (message : String) : Action Unit :=
  perform (Program.log level source message)

end Action

end VaultRing
