import VaultRing.Text.Decoded

namespace VaultRing

structure Environment where
  bindings : List (String × Bytes)

namespace Environment

def empty : Environment := ⟨[]⟩

def set (env : Environment) (name : String) (value : Option Bytes) : Environment :=
  let others := env.bindings.filter (·.1 ≠ name)
  ⟨match value with
    | none => others
    | some bytes => others ++ [(name, bytes)]⟩

/-- The first variable whose text `NAME=VALUE` begins with the name and an equals sign gives the
rest of it. So a name that holds an equals sign asks for part of a value. -/
def bytes? (env : Environment) (name : String) : Option Bytes :=
  let start := textBytes (name ++ "=")
  if name.isEmpty || name.toList.contains '\x00' then none
  else env.bindings.findSome? fun (n, value) => start.isPrefixOf? (textBytes (n ++ "=") ++ value)

def text? (env : Environment) (name : String) : Option String :=
  (env.bytes? name).bind fun bytes => String.fromUTF8? ⟨bytes.toArray⟩

/-- A value as a path, in which bytes that are no text are replaced. -/
def path? (env : Environment) (name : String) : Option String := (env.bytes? name).map Text.decode

/-- The value of a variable that is set and not empty. -/
def value? (env : Environment) (name : String) : Option String :=
  (env.text? name).filter (!·.isEmpty)

end Environment

end VaultRing
