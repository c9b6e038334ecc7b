import VaultRing.Config.Writing
import VaultRing.FileTree

namespace VaultRing.Config

/-- A file that is not there holds the empty configuration. -/
def load (t : FileTree) (path : String) : Except ConfigError Config := do
  if !(t.find path).isOk then return empty
  let text ← (t.readText path).mapError fun fault => .io fault.message
  (ofYaml text).mapError fun fault => .yaml fault.message

/-- Makes the directories above the file if they are missing. They stay even if the file cannot be
written. -/
def save (c : Config) (path : String) (t : FileTree) : Except ConfigError Unit × FileTree :=
  let saved : FileTree.Change Unit := do
    FileTree.makeDirectories (FilePath.parent path)
    FileTree.write path (textBytes c.toYaml)
  let (result, t) := saved.run t
  (result.mapError fun fault => .io fault.message, t)

end VaultRing.Config
