namespace VaultRing.Text

def hexValue? (c : Char) : Option Nat :=
  let n := c.toNat
  if 48 ≤ n ∧ n ≤ 57 then some (n - 48)
  else if 97 ≤ n ∧ n ≤ 102 then some (n - 87)
  else if 65 ≤ n ∧ n ≤ 70 then some (n - 55)
  else none

/-- The number that digits of a base up to sixteen stand for; no digits stand for zero. -/
def number? (base : Nat) (ds : List Char) : Option Nat :=
  ds.foldl
    (fun n? d => n?.bind fun n => ((hexValue? d).filter (· < base)).map (n * base + ·)) (some 0)

def decimalValue (d : Char) : Nat := d.toNat - 48

def decimal (ds : List Char) : Nat := ds.foldl (fun n d => n * 10 + decimalValue d) 0

def padLeft (width : Nat) (ds : List Char) : List Char :=
  List.replicate (width - ds.length) '0' ++ ds

def digits (base width n : Nat) : List Char := padLeft width (Nat.toDigits base n)

end VaultRing.Text
