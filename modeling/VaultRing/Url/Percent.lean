import VaultRing.Base64
import VaultRing.Text.Digits

namespace VaultRing.Url

def hexDigit (n : Nat) : Char := if n < 10 then Char.ofNat (48 + n) else Char.ofNat (55 + n)

def escapedByte (b : UInt8) : List Char :=
  ['%', hexDigit (b.toNat / 16), hexDigit (b.toNat % 16)]

inductive Part where
  | userinfo
  | path
  /-- One segment of a path, taken literally. -/
  | segment
  | query
  | fragment
deriving DecidableEq

namespace Part

def common : List Char := [' ', '"', '<', '>']

def pathMarks : List Char := '#' :: '?' :: '\x60' :: '\x7b' :: '\x7d' :: common

def marks : Part → List Char
  | .userinfo => '/' :: ':' :: ';' :: '=' :: '@' :: '[' :: '\\' :: ']' :: '^' :: '|' :: pathMarks
  | .path => pathMarks
  | .segment => '/' :: '%' :: '\\' :: pathMarks
  | .query => '#' :: '\x27' :: common
  | .fragment => '\x60' :: common

def escapes (part : Part) (c : Char) : Bool :=
  c.toNat < 32 || 127 ≤ c.toNat || part.marks.contains c

def encodeChar (part : Part) (c : Char) : List Char :=
  if part.escapes c then (String.utf8EncodeChar c).flatMap escapedByte else [c]

def encode (part : Part) (cs : List Char) : List Char := cs.flatMap part.encodeChar

end Part

/-- Undoes every escape; a `%` without two digits stands for itself. -/
def percentDecode : List Char → Bytes
  | '%' :: a :: b :: rest =>
    match Text.hexValue? a, Text.hexValue? b with
    | some m, some n => UInt8.ofNat (m * 16 + n) :: percentDecode rest
    | _, _ => 37 :: percentDecode (a :: b :: rest)
  | c :: rest => String.utf8EncodeChar c ++ percentDecode rest
  | [] => []

end VaultRing.Url
