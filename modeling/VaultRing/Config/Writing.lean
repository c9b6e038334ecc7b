import VaultRing.Config.Reading
import VaultRing.Yaml.Writing

namespace VaultRing.Config

/-- Fractions of a second are written like other numbers, with a point or an exponent. -/
def secondsLayout : Layout := ⟨-5, 15, true, false, 1, .toEven⟩

/-- Whole seconds in full; other spans as the nearest double. -/
def writeTimeout (d : Duration) : String :=
  if d.nanos.val = 0 then toString d.seconds.toNat else d.toSeconds.text secondsLayout

def writeMember (c : Config) (m : Member) : List Char :=
  let text (s : String) : List Char := Yaml.writeText s.toList
  m.name.toList ++ ':' :: ' ' :: match m with
    | .vaultId => text c.vaultId
    | .titlePrefix => text c.titlePrefix
    | .tag => text c.tag
    | .fieldTitle => text c.fieldTitle
    | .timeout => (writeTimeout c.timeout).toList ++ ['\n']
    | .connectHost => text c.connectHost
    | .connectTokenVariable => text c.connectTokenVariable
    | .tokenVariable => text c.tokenVariable
    | .desktopAccount => text c.desktopAccount

def toYaml (c : Config) : String := String.ofList (Member.all.flatMap c.writeMember)

end VaultRing.Config
