import VaultRing.Binary64

namespace VaultRing.Yaml

def isNull (cs : List Char) : Bool :=
  ["", "~", "null", "Null", "NULL"].contains (String.ofList cs)

def isTruthValue (cs : List Char) : Bool :=
  ["true", "True", "TRUE", "false", "False", "FALSE"].contains (String.ofList cs)

/-- Numbers as YAML writes them, infinities and what is no number included. -/
def float? (cs : List Char) : Option Binary64 :=
  let unsigned? := match cs with
    | '+' :: '+' :: _ | '+' :: '-' :: _ => none
    | '+' :: rest => some rest
    | _ => some cs
  unsigned?.bind fun unsigned =>
    let text := String.ofList cs
    if [".inf", ".Inf", ".INF"].contains (String.ofList unsigned) then some ⟨false, .infinite⟩
    else if ["-.inf", "-.Inf", "-.INF"].contains text then some ⟨true, .infinite⟩
    else if [".nan", ".NaN", ".NAN"].contains text then some ⟨false, .notANumber⟩
    else (Binary64.ofText? unsigned).filter fun x => x.magnitude ≠ .infinite

/-- Digits that begin with a needless zero. They are a text. -/
def isZeroPadded (cs : List Char) : Bool :=
  let ds := match cs with
    | '-' :: rest | '+' :: rest => rest
    | _ => cs
  1 < ds.length && ds.head? == some '0' && ds.all Char.isDigit

def radix : List Char → Nat × List Char
  | '0' :: 'x' :: ds => (16, ds)
  | '0' :: 'o' :: ds => (8, ds)
  | '0' :: 'b' :: ds => (2, ds)
  | ds => (10, ds)

def isInteger (cs : List Char) : Bool :=
  if isZeroPadded cs then false
  else
    let (limit, ds) := match cs with
      | '-' :: ds => (Nat.pow 2 127 + 1, ds)
      | '+' :: ds => (Nat.pow 2 128, ds)
      | ds => (Nat.pow 2 128, ds)
    let (base, ds) := radix ds
    !ds.isEmpty && (Text.number? base ds).any (· < limit)

def isNumber (cs : List Char) : Bool :=
  isInteger cs || (!isZeroPadded cs && (float? cs).isSome)

def isText (cs : List Char) : Bool := !isNull cs && !isTruthValue cs && !isNumber cs

end VaultRing.Yaml
