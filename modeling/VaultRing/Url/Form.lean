import VaultRing.Url.Percent

namespace VaultRing.Url.Form

def isPlain (b : UInt8) : Bool :=
  let c := Char.ofNat b.toNat
  b.toNat < 128 && (c.isAlphanum || c == '*' || c == '-' || c == '.' || c == '_')

def encodeByte (b : UInt8) : List Char :=
  if b = 32 then ['+'] else if isPlain b then [Char.ofNat b.toNat] else escapedByte b

def encode (s : String) : List Char := (textBytes s).flatMap encodeByte

def pair (name value : String) : List Char := encode name ++ '=' :: encode value

def append (query : Option (List Char)) (field : List Char) : List Char :=
  match query with
  | none | some [] => field
  | some query => query ++ '&' :: field

end VaultRing.Url.Form
