import VaultRing.FilePath
import VaultRing.Program
import VaultRing.Scope

namespace VaultRing

structure Config where
  vaultId : String
  titlePrefix : String
  tag : String
  fieldTitle : String
  timeout : Duration
  connectHost : String
  connectTokenVariable : String
  tokenVariable : String
  desktopAccount : String
  prompt : Option Prompt
  /-- Whether SDK clients can be built. -/
  hasConnector : Bool

namespace Config

def empty : Config where
  vaultId := ""
  titlePrefix := ""
  tag := ""
  fieldTitle := ""
  timeout := Duration.zero
  connectHost := ""
  connectTokenVariable := ""
  tokenVariable := ""
  desktopAccount := ""
  prompt := none
  hasConnector := false

def shown (c : Config) : String :=
  Text.record "Config"
    [("op_vault_id", Text.quoted c.vaultId),
      ("op_item_title_prefix", Text.quoted c.titlePrefix),
      ("op_item_tag", Text.quoted c.tag),
      ("op_item_field_title", Text.quoted c.fieldTitle),
      ("op_timeout", c.timeout.text),
      ("op_connect_host", Text.quoted c.connectHost),
      ("op_connect_token_env", Text.quoted c.connectTokenVariable),
      ("op_token_env", Text.quoted c.tokenVariable),
      ("op_desktop_account_id", Text.quoted c.desktopAccount),
      ("op_token_func", Text.shownBool c.prompt.isSome),
      ("op_client_connector", Text.shownBool c.hasConnector)]

def defaultPath (env : Environment) : String :=
  let home := (env.path? "HOME").getD ""
  let directory := ((env.path? "XDG_CONFIG_HOME").filter FilePath.isAbsolute).getD
    (FilePath.join home ".config")
  FilePath.join (FilePath.join directory "opkeyring") "config.yaml"

end Config

end VaultRing
