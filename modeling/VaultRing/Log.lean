import VaultRing.Environment
import VaultRing.FilePath

namespace VaultRing

inductive LogLevel where
  | trace
  | debug
  | info
  | warn
  | error
deriving DecidableEq

namespace LogLevel

def all : List LogLevel := [.trace, .debug, .info, .warn, .error]

def rank : LogLevel → Nat
  | .trace => 0
  | .debug => 1
  | .info => 2
  | .warn => 3
  | .error => 4

def name : LogLevel → String
  | .trace => "trace"
  | .debug => "debug"
  | .info => "info"
  | .warn => "warn"
  | .error => "error"

def label : LogLevel → String
  | .trace => "TRACE"
  | .debug => "DEBUG"
  | .info => "INFO "
  | .warn => "WARN "
  | .error => "ERROR"

def shown : LogLevel → String
  | .trace => "Trace"
  | .debug => "Debug"
  | .info => "Info"
  | .warn => "Warn"
  | .error => "Error"

def ofText? (s : String) : Option LogLevel :=
  all.find? (·.name.toList == s.toList.map Char.toLower)

end LogLevel

inductive LogSource where
  | registry
  | keyring
  | connect
  | connectClient
  | desktop
  | serviceAccount
  | standard
  | lazy
  | other (name : String)
deriving DecidableEq

def LogSource.name : LogSource → String
  | .registry => "opkeyring_core::keyring::registry"
  | .keyring => "opkeyring_core::onepassword::vault_keyring"
  | .connect => "opkeyring_core::onepassword::connect"
  | .connectClient => "opkeyring_core::onepassword::connect::client"
  | .desktop => "opkeyring_core::onepassword::desktop"
  | .serviceAccount => "opkeyring_core::onepassword::service_account"
  | .standard => "opkeyring_core::onepassword::standard"
  | .lazy => "opkeyring_core::onepassword::lazy"
  | .other name => name

structure LogEntry where
  level : LogLevel
  source : LogSource
  message : String
deriving DecidableEq

def LogEntry.text (e : LogEntry) : String :=
  "[" ++ e.level.label ++ "] [" ++ e.source.name ++ "] " ++ e.message

structure Logger where
  enabled : Bool
  least : LogLevel
  /-- The entries in the file, if there is one. -/
  file : Option (List LogEntry)

namespace Logger

def disabled : Logger := ⟨false, .debug, none⟩

def isSwitchedOn (value : String) : Bool :=
  value.toList == ['1'] || value.toList.map Char.toLower == ['t', 'r', 'u', 'e']

def ofEnvironment (env : Environment) : Logger where
  enabled := (env.text? "OPKEYRING_DEBUG").any isSwitchedOn
  least := ((env.text? "OPKEYRING_LOG_LEVEL").bind LogLevel.ofText?).getD .debug
  file := none

def keeps (l : Logger) (level : LogLevel) : Bool := l.enabled && l.least.rank ≤ level.rank

def add (l : Logger) (e : LogEntry) : Logger :=
  if l.enabled then
    { l with file := some (l.file.getD [] ++ if l.keeps e.level then [e] else []) }
  else l

/-- Turned on from now on, from `least` on. -/
def enable (l : Logger) (least : LogLevel) : Logger := ⟨true, least, some (l.file.getD [])⟩

/-- The time stamp in front of an entry: `[hh:mm:ss.mmm] `, with digits for the letters. -/
def stamp : List Char := "[00:00:00.000] ".toList

def dropStamp (line : List Char) : List Char :=
  if (line.take stamp.length).map (fun c => if c.isDigit then '0' else c) = stamp then
    line.drop stamp.length
  else line

def dropReturn (line : List Char) : List Char :=
  if line.getLast? = some '\r' then line.dropLast else line

/-- The lines of an entry, of which only the first has its own time stamp. -/
def entryLines (e : LogEntry) : List String :=
  let lines := (e.text.splitOn "\n").map (dropReturn ·.toList)
  (lines.take 1 ++ (lines.drop 1).map dropStamp).map String.ofList

/-- The lines of the file without the time stamps; a message may hold several. -/
def lines? (l : Logger) : Option (List String) := l.file.map (·.flatMap entryLines)

end Logger

def logPath (env : Environment) : String :=
  FilePath.join ((env.path? "TMPDIR").getD "/tmp") "opkeyring-debug.log"

end VaultRing
