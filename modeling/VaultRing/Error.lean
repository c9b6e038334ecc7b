import VaultRing.Backend
import VaultRing.Duration
import VaultRing.Json.Fault

namespace VaultRing

inductive HttpFault where
  | request (url : Option String)
  | connection (url : String)
  | body
deriving DecidableEq

inductive TransportError where
  | http (fault : HttpFault)
  | status (code : Nat) (message : String)
  | timeout (limit : Duration)
  | invalidHost (host : String)
  | client (message : String)
deriving DecidableEq

inductive ConfigError where
  | unsetVariable (backend : Backend) (name : String)
  | zeroTimeout (backend : Backend)
  | noToken (backend : Backend)
  | noConnector (backend : Backend)
  | io (problem : String)
  | yaml (problem : String)
deriving DecidableEq

inductive PromptFailure where
  | failed (message : String)
  | aborted
deriving DecidableEq

inductive KeyringError where
  | config (errors : List ConfigError)
  | keyNotFound
  | ambiguous (count : Nat) (title vaultId : String)
  | duplicateTitles (titles : List String) (vaultId : String)
  /-- `context` tells what was attempted, and on what. -/
  | transport (context : String) (source : TransportError)
  | clientInit (backend : Backend) (source : TransportError)
  | prompt (failure : PromptFailure)
  | decode (error : Json.Error)
  | unsupportedBackend (name : String)
deriving DecidableEq

def HttpFault.message : HttpFault → String
  | .request none => "builder error"
  | .request (some url) => "builder error for url (" ++ url ++ ")"
  | .connection url => "error sending request for url (" ++ url ++ ")"
  | .body => "error decoding response body"

def TransportError.message : TransportError → String
  | .http fault => "HTTP error: " ++ fault.message
  | .status code message => "request failed with status " ++ toString code ++ ": " ++ message
  | .timeout limit => "deadline of " ++ limit.text ++ " exceeded"
  | .invalidHost host => "invalid Connect host: " ++ host
  | .client message => message

def ConfigError.message : ConfigError → String
  | .unsetVariable backend name =>
    "Unable to create a " ++ backend.title ++ " keyring: environment variable unset or empty: " ++
      Text.quoted name
  | .zeroTimeout backend =>
    "Unable to create a " ++ backend.title ++ " keyring: timeout must be a non-zero duration"
  | .noToken backend =>
    "Unable to create a " ++ backend.title ++ " client: token function is nil"
  | .noConnector backend =>
    "Unable to create a " ++ backend.title ++ " keyring: no items client connector configured"
  | .io problem => "IO error: " ++ problem
  | .yaml problem => "Failed to parse YAML: " ++ problem

def ConfigError.messages (errors : List ConfigError) : String :=
  "\n".intercalate (errors.map message)

def PromptFailure.message : PromptFailure → String
  | .failed message => message
  | .aborted => "the prompt did not return"

def KeyringError.message : KeyringError → String
  | .config errors => ConfigError.messages errors
  | .keyNotFound => "The specified item could not be found in the keyring"
  | .ambiguous count title vaultId =>
    "Found multiple matching items: matched " ++ toString count ++ " items with title " ++
      Text.quoted title ++ " in vault with ID " ++ Text.quoted vaultId
  | .duplicateTitles titles vaultId =>
    "Found duplicate item title in vault with ID " ++ Text.quoted vaultId ++ ": " ++
      Text.quotedList titles
  | .transport context source => context ++ ": " ++ source.message
  | .clientInit backend source =>
    "Unable to create a " ++ backend.title ++ " client: " ++ source.message
  | .prompt failure => "Token prompt failed: " ++ failure.message
  | .decode error => "Unable to decode item field value: " ++ error.message
  | .unsupportedBackend name => "Unsupported keyring backend: " ++ name

namespace KeyringError

def isNotFound : KeyringError → Bool
  | .keyNotFound => true
  | _ => false

/-- The text of the error that caused this one. -/
def cause? : KeyringError → Option String
  | .config errors => some (ConfigError.messages errors)
  | .transport _ source | .clientInit _ source => some source.message
  | .prompt failure => some failure.message
  | .decode error => some error.message
  | .keyNotFound | .ambiguous .. | .duplicateTitles .. | .unsupportedBackend _ => none

end KeyringError

end VaultRing
