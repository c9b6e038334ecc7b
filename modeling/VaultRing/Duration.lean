import VaultRing.Binary64

namespace VaultRing

structure Duration where
  seconds : UInt64
  nanos : Fin 1000000000
deriving DecidableEq

inductive Duration.SecondsError where
  | negative
  | overflow
deriving DecidableEq

namespace Duration

def zero : Duration := ⟨0, ⟨0, by decide⟩⟩

instance : Inhabited Duration := ⟨zero⟩

def isZero (d : Duration) : Bool := d.seconds == 0 && d.nanos.val == 0

def nanoseconds (d : Duration) : Nat := d.seconds.toNat * 1000000000 + d.nanos.val

def ofNanoseconds (n : Nat) : Duration :=
  ⟨UInt64.ofNat (n / 1000000000), ⟨n % 1000000000, Nat.mod_lt _ (by decide)⟩⟩

/-- Whole milliseconds, a part counted as a whole one. -/
def milliseconds (d : Duration) : Nat := (d.nanoseconds + 999999) / 1000000

/-- The digits of `part / 10 ^ width` after the point, without the zeros at their end. -/
def places (part width : Nat) : List Char :=
  ((Text.digits 10 width part).reverse.dropWhile (· == '0')).reverse

def decimal (whole part width : Nat) (unit : String) : String :=
  let ds := places part width
  toString whole ++ (if ds.isEmpty then "" else String.ofList ('.' :: ds)) ++ unit

/-- In the largest of the units s, ms, µs and ns that leaves a whole part. -/
def text (d : Duration) : String :=
  let n := d.nanos.val
  if d.seconds ≠ 0 then decimal d.seconds.toNat n 9 "s"
  else if 1000000 ≤ n then decimal (n / 1000000) (n % 1000000) 6 "ms"
  else if 1000 ≤ n then decimal (n / 1000) (n % 1000) 3 "µs"
  else decimal n 0 0 "ns"

/-- Seconds as a double. The whole seconds and the part are rounded first, then their sum. -/
def toSeconds (d : Duration) : Binary64 :=
  match Magnitude.nearest (Fraction.ofNat d.seconds.toNat),
      Magnitude.nearest ⟨d.nanos.val, 1000000000⟩ with
  | .finite m p, .finite n q =>
    ⟨false, Magnitude.nearest ((Magnitude.fraction m p).add (Magnitude.fraction n q))⟩
  | whole, _ => ⟨false, whole⟩

/-- The nearest number of nanoseconds; halfway between two, the even one. -/
def ofSeconds (x : Binary64) : Except SecondsError Duration :=
  match x.magnitude with
  | .notANumber => .error .overflow
  | .infinite => .error (if x.negative then .negative else .overflow)
  | .finite m q =>
    if x.negative ∧ m ≠ 0 then .error .negative
    else
      let v := Magnitude.fraction m q
      if (Fraction.ofNat (Nat.pow 2 64)).le v then .error .overflow
      else .ok (ofNanoseconds (v.mul (Fraction.ofNat 1000000000)).round)

end Duration

def Duration.SecondsError.message : Duration.SecondsError → String
  | .negative => "cannot convert float seconds to Duration: value is negative"
  | .overflow => "cannot convert float seconds to Duration: value is either too big or NaN"

end VaultRing
