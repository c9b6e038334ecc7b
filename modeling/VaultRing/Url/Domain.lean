import VaultRing.Url.Domain.Composition
import VaultRing.Url.Domain.Direction
import VaultRing.Url.Domain.Joining
import VaultRing.Url.Domain.Mapping
import VaultRing.Url.Punycode

namespace VaultRing.Url.Domain

/-- What a character of a domain name stands for; `none` if it is not allowed. -/
def mapped? (c : Char) : Option (List Char) :=
  if c.toNat < 128 then some [c.toLower]
  else if ignored.contains c then some []
  else if disallowed.contains c then none
  else some ((mappings.findSome? (·.target? c)).getD [c])

def isForbidden (c : Char) : Bool :=
  c.toNat ≤ 32 || c.toNat == 127 ||
    ['#', '%', '/', ':', '<', '>', '?', '@', '[', '\\', ']', '^', '|'].contains c

def isAscii (label : List Char) : Bool := label.all (·.toNat < 128)

def isLabel (label : List Char) : Bool := !(label.head?.any isMark) && joinersInPlace [] label

structure Label where
  characters : List Char
  text : List Char

namespace Label

def encodedLimit : Nat := 1000

def codeLimit : Nat := 2000

/-- Labels in Punycode must stand for something outside ASCII that is in its mapped form. -/
def ofCode? (code : List Char) : Option Label := do
  if codeLimit < code.length then none
  let label ← Punycode.decode? code
  if !isAscii label && isLabel label && canonical label == label &&
      label.all (fun c => mapped? c == some [c]) then
    some ⟨label, ['x', 'n', '-', '-'] ++ code⟩
  else none

def ofChars? (label : List Char) : Option Label :=
  match label with
  | 'x' :: 'n' :: '-' :: '-' :: code => if isAscii label then ofCode? code else none
  | _ =>
    if isAscii label then some ⟨label, label⟩
    else if isLabel label && label.length ≤ encodedLimit then
      some ⟨label, ['x', 'n', '-', '-'] ++ Punycode.encode label⟩
    else none

end Label

def splitLabels : List Char → List (List Char)
  | [] => [[]]
  | c :: rest =>
    if c = '.' then [] :: splitLabels rest
    else
      match splitLabels rest with
      | l :: labels => (c :: l) :: labels
      | [] => [[c]]

def joinLabels : List (List Char) → List Char
  | [] => []
  | [l] => l
  | l :: labels => l ++ '.' :: joinLabels labels

def ofChars? (cs : List Char) : Option (List Char) := do
  let parts ← cs.mapM mapped?
  let labels ← (splitLabels (canonical parts.flatten)).mapM Label.ofChars?
  let name := joinLabels (labels.map (·.text))
  if name.any isForbidden || !directionsApart (labels.map (·.characters)) then none else some name

end VaultRing.Url.Domain
