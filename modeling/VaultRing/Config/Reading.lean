import VaultRing.Config
import VaultRing.Yaml.Document
import VaultRing.Yaml.Meaning

namespace VaultRing.Config

inductive Member where
  | vaultId
  | titlePrefix
  | tag
  | fieldTitle
  | timeout
  | connectHost
  | connectTokenVariable
  | tokenVariable
  | desktopAccount
deriving DecidableEq

namespace Member

def all : List Member :=
  [.vaultId, .titlePrefix, .tag, .fieldTitle, .timeout, .connectHost, .connectTokenVariable,
    .tokenVariable, .desktopAccount]

def name : Member → String
  | .vaultId => "op_vault_id"
  | .titlePrefix => "op_item_title_prefix"
  | .tag => "op_item_tag"
  | .fieldTitle => "op_item_field_title"
  | .timeout => "op_timeout_secs"
  | .connectHost => "op_connect_host"
  | .connectTokenVariable => "op_connect_token_env"
  | .tokenVariable => "op_token_env"
  | .desktopAccount => "op_desktop_account_id"

def ofName? (s : String) : Option Member := all.find? (·.name == s)

end Member

def floatTag : Bytes := textBytes "tag:yaml.org,2002:float"

/-- Whether a scalar can be a number: quoted ones are text. -/
def mayBeNumber (s : Yaml.Scalar) : Bool :=
  s.style == .plain || (s.style == .literal && s.tag == floatTag)

def timeoutOf (s : Yaml.Scalar) : Except Yaml.Fault Duration :=
  match if mayBeNumber s then Yaml.float? s.text else none with
  | none => .error (s.refused "f64")
  | some x =>
    (Duration.ofSeconds x).mapError fun e =>
      .contents ("invalid op_timeout_secs " ++ x.text .full ++ ": " ++ e.message)

def setMember (c : Config) (s : Yaml.Scalar) : Member → Except Yaml.Fault Config
  | .vaultId => .ok { c with vaultId := String.ofList s.text }
  | .titlePrefix => .ok { c with titlePrefix := String.ofList s.text }
  | .tag => .ok { c with tag := String.ofList s.text }
  | .fieldTitle => .ok { c with fieldTitle := String.ofList s.text }
  | .timeout => (timeoutOf s).map fun timeout => { c with timeout }
  | .connectHost => .ok { c with connectHost := String.ofList s.text }
  | .connectTokenVariable => .ok { c with connectTokenVariable := String.ofList s.text }
  | .tokenVariable => .ok { c with tokenVariable := String.ofList s.text }
  | .desktopAccount => .ok { c with desktopAccount := String.ofList s.text }

/-- Takes over one member, unless it has been seen. -/
def addPair (read : Config × List Member) (key : String) (value : Option Yaml.Scalar) :
    Except Yaml.Fault (Config × List Member) :=
  match Member.ofName? key with
  | none => .ok read
  | some m =>
    if read.2.contains m then .error .repeatedKey
    else
      match value with
      | none => .error .wrongKind
      | some s => (setMember read.1 s m).map (·, m :: read.2)

def ofYaml (text : String) : Except Yaml.Fault Config :=
  ((Yaml.Document.ofChars text.toList).readMapping "struct Config" addPair (empty, [])).map (·.1)

end VaultRing.Config
