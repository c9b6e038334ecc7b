import VaultRing.Base64

namespace VaultRing.Text

/-- A character of which bytes are still to come: how many, the bounds of the next, and the number
that those before stand for. -/
structure Begun where
  due : Nat
  least : Nat
  most : Nat
  number : Nat

/-- What a byte outside ASCII begins. The bounds leave out longer forms than needed and numbers that
are no characters. -/
def begun? (n : Nat) : Option Begun :=
  if 0xC2 ≤ n ∧ n ≤ 0xDF then some ⟨1, 0x80, 0xBF, n % 32⟩
  else if n = 0xE0 then some ⟨2, 0xA0, 0xBF, 0⟩
  else if n = 0xED then some ⟨2, 0x80, 0x9F, 13⟩
  else if 0xE1 ≤ n ∧ n ≤ 0xEF then some ⟨2, 0x80, 0xBF, n % 16⟩
  else if n = 0xF0 then some ⟨3, 0x90, 0xBF, 0⟩
  else if 0xF1 ≤ n ∧ n ≤ 0xF3 then some ⟨3, 0x80, 0xBF, n % 8⟩
  else if n = 0xF4 then some ⟨3, 0x80, 0x8F, 4⟩
  else none

def replacement : Char := Char.ofNat 0xFFFD

def decodeFirst (n : Nat) : List Char × Option Begun :=
  if n < 0x80 then ([Char.ofNat n], none)
  else
    match begun? n with
    | some b => ([], some b)
    | none => ([replacement], none)

def decodeNext (b : Begun) (n : Nat) : List Char × Option Begun :=
  if n < b.least ∨ b.most < n then
    let (cs, begun) := decodeFirst n
    (replacement :: cs, begun)
  else
    let number := b.number * 64 + n % 64
    if b.due = 1 then ([Char.ofNat number], none) else ([], some ⟨b.due - 1, 0x80, 0xBF, number⟩)

def decodeFrom (begun : Option Begun) : Bytes → List Char
  | [] => if begun.isSome then [replacement] else []
  | byte :: rest =>
    let (cs, begun) := match begun with
      | none => decodeFirst byte.toNat
      | some b => decodeNext b byte.toNat
    cs ++ decodeFrom begun rest

def decode (bytes : Bytes) : String := String.ofList (decodeFrom none bytes)

end VaultRing.Text
