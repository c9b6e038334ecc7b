namespace VaultRing

abbrev Bytes := List UInt8

def textBytes (s : String) : Bytes := s.toList.flatMap String.utf8EncodeChar

namespace Base64

inductive Fault where
  | symbol (byte : UInt8) (offset : Nat)
  | lastSymbol (byte : UInt8) (offset : Nat)
  | length (n : Nat)
  | padding
deriving DecidableEq

def Fault.message : Fault → String
  | .symbol byte offset =>
    "Invalid symbol " ++ toString byte.toNat ++ ", offset " ++ toString offset ++ "."
  | .lastSymbol byte offset =>
    "Invalid last symbol " ++ toString byte.toNat ++ ", offset " ++ toString offset ++ "."
  | .length n => "Invalid input length: " ++ toString n
  | .padding => "Invalid padding"

def symbol (n : Nat) : Char :=
  if n < 26 then Char.ofNat (65 + n)
  else if n < 52 then Char.ofNat (71 + n)
  else if n < 62 then Char.ofNat (n - 4)
  else if n = 62 then '+' else '/'

def value? (b : UInt8) : Option Nat :=
  let n := b.toNat
  if 65 ≤ n ∧ n ≤ 90 then some (n - 65)
  else if 97 ≤ n ∧ n ≤ 122 then some (n - 71)
  else if 48 ≤ n ∧ n ≤ 57 then some (n + 4)
  else if n = 43 then some 62
  else if n = 47 then some 63
  else none

def pad : UInt8 := 61

def encode : Bytes → List Char
  | [] => []
  | [a] =>
    [symbol (a.toNat / 4), symbol (a.toNat % 4 * 16), '=', '=']
  | [a, b] =>
    [symbol (a.toNat / 4), symbol (a.toNat % 4 * 16 + b.toNat / 16),
      symbol (b.toNat % 16 * 4), '=']
  | a :: b :: c :: rest =>
    symbol (a.toNat / 4) :: symbol (a.toNat % 4 * 16 + b.toNat / 16) ::
      symbol (b.toNat % 16 * 4 + c.toNat / 64) :: symbol (c.toNat % 64) :: encode rest

/-- The values of symbols from `offset` on, none of them padding. -/
def values (offset : Nat) : Bytes → Except Fault (List Nat)
  | [] => .ok []
  | b :: rest =>
    match value? b with
    | some n => (values (offset + 1) rest).map (n :: ·)
    | none => .error (.symbol b offset)

def triple (p q r s : Nat) : Bytes :=
  [UInt8.ofNat (p * 4 + q / 16), UInt8.ofNat (q % 16 * 16 + r / 4), UInt8.ofNat (r % 4 * 64 + s)]

/-- The symbols of the last group up to its padding, and the length of the padding. Padding may
begin at the third place and nothing may follow it. `place` counts within the group. -/
def lastGroup (offset place : Nat) : Bytes → Except Fault (List Nat × Nat)
  | [] => .ok ([], 0)
  | b :: rest =>
    if b = pad then
      if place < 2 ∨ rest.any (· ≠ pad) then .error (.symbol pad (offset + place))
      else .ok ([], rest.length + 1)
    else
      match value? b with
      | none => .error (.symbol b (offset + place))
      | some n => (lastGroup offset (place + 1) rest).map fun (ns, padding) => (n :: ns, padding)

def decodeLast (offset : Nat) (group : Bytes) : Except Fault Bytes :=
  (lastGroup offset 0 group).bind fun (ns, padding) =>
    if group.isEmpty then .ok []
    else if ns.length < 2 then .error (.length (offset + ns.length))
    else if (ns.length + padding) % 4 ≠ 0 then .error .padding
    else
      let last := offset + ns.length - 1
      let byte := group.getD (ns.length - 1) pad
      match ns with
      | [p, q] =>
        if q % 16 = 0 then .ok [UInt8.ofNat (p * 4 + q / 16)] else .error (.lastSymbol byte last)
      | [p, q, r] =>
        if r % 4 = 0 then
          .ok [UInt8.ofNat (p * 4 + q / 16), UInt8.ofNat (q % 16 * 16 + r / 4)]
        else .error (.lastSymbol byte last)
      | [p, q, r, s] => .ok (triple p q r s)
      | _ => .ok []

def decodeFrom (offset : Nat) : Bytes → Except Fault Bytes
  | a :: b :: c :: d :: e :: rest =>
    (values offset [a, b, c, d]).bind fun
      | [p, q, r, s] => (decodeFrom (offset + 4) (e :: rest)).map (triple p q r s ++ ·)
      | _ => .ok []
  | group => decodeLast offset group

/-- A text with one symbol too many is blamed on that symbol if it is not in the alphabet. -/
def decode (text : Bytes) : Except Fault Bytes :=
  match text.getLast? with
  | some b =>
    if text.length % 4 = 1 ∧ b ≠ pad ∧ value? b = none then .error (.symbol b (text.length - 1))
    else decodeFrom 0 text
  | none => .ok []

end Base64

end VaultRing
