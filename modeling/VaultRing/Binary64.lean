import VaultRing.Text.Digits

namespace VaultRing

inductive Magnitude where
  | finite (significand : Nat) (exponent : Int)
  | infinite
  | notANumber
deriving DecidableEq

structure Binary64 where
  negative : Bool
  magnitude : Magnitude
deriving DecidableEq

/-- A non-negative rational number; `den` is positive. -/
structure Fraction where
  num : Nat
  den : Nat
deriving DecidableEq

namespace Fraction

def ofNat (n : Nat) : Fraction := ⟨n, 1⟩

def add (a b : Fraction) : Fraction := ⟨a.num * b.den + b.num * a.den, a.den * b.den⟩

def mul (a b : Fraction) : Fraction := ⟨a.num * b.num, a.den * b.den⟩

def div (a b : Fraction) : Fraction := ⟨a.num * b.den, a.den * b.num⟩

def le (a b : Fraction) : Bool := a.num * b.den ≤ b.num * a.den

def lt (a b : Fraction) : Bool := a.num * b.den < b.num * a.den

def power (base : Nat) (exponent : Int) : Fraction :=
  if 0 ≤ exponent then ⟨base.pow exponent.toNat, 1⟩ else ⟨1, base.pow (-exponent).toNat⟩

/-- The nearest natural number; halfway between two, the even one. -/
def round (a : Fraction) : Nat :=
  let q := a.num / a.den
  let r := a.num % a.den
  if 2 * r < a.den then q else if a.den < 2 * r then q + 1 else q + q % 2

/-- The largest `e` with `2 ^ e` at most `a`, for a positive `a`. -/
def floorLog2 (a : Fraction) : Int :=
  let e : Int := (a.num.log2 : Int) - a.den.log2
  if le (power 2 e) a then e else e - 1

def floorLog10 (a : Fraction) : Int :=
  let e := Int.fdiv (a.floorLog2 * 1233) 4096
  if le (power 10 (e + 1)) a then e + 1 else if lt a (power 10 e) then e - 1 else e

end Fraction

inductive Tie where
  | toEven
  | up
deriving DecidableEq

namespace Magnitude

def leastExponent : Int := -1074

def greatestExponent : Int := 971

/-- The double nearest to `a`; halfway between two, the one with an even significand. -/
def nearest (a : Fraction) : Magnitude :=
  if a.num = 0 then .finite 0 leastExponent
  else
    let q := max (a.floorLog2 - 52) leastExponent
    let m := (a.div (Fraction.power 2 q)).round
    let (m, q) := if m = Nat.pow 2 53 then (Nat.pow 2 52, q + 1) else (m, q)
    if greatestExponent < q then .infinite else .finite m q

def fraction (m : Nat) (q : Int) : Fraction := (Fraction.ofNat m).mul (Fraction.power 2 q)

/-- The double nearest to `digits * 10 ^ exponent`. Exponents far outside the range of doubles
are answered without forming the power. -/
def ofDecimal (digits : Nat) (exponent : Int) : Magnitude :=
  let lead := (digits.log2 : Int) * 1233 / 4096 + exponent
  if digits = 0 ∨ lead < -400 then nearest ⟨0, 1⟩
  else if 400 < lead then .infinite
  else nearest ((Fraction.ofNat digits).mul (Fraction.power 10 exponent))

/-- Whether reading `d` gives `m * 2 ^ q` back: `d` lies between the midpoints to the
neighbouring doubles, which belong to it when `m` is even. -/
def readsBack (m : Nat) (q : Int) (d : Fraction) : Bool :=
  let below := if m = Nat.pow 2 52 ∧ leastExponent < q then 1 else 2
  let low := fraction (4 * m - below) (q - 2)
  let high := fraction (4 * m + 2) (q - 2)
  if m % 2 = 0 then low.le d && d.le high else low.lt d && d.lt high

/-- The two multiples of `10 ^ k` around `v`, the nearer first. -/
def neighbours (tie : Tie) (v : Fraction) (k : Int) : List Nat :=
  let scaled := v.div (Fraction.power 10 k)
  let below := scaled.num / scaled.den
  let up : Bool := match tie with
    | .toEven => scaled.round != below
    | .up => scaled.den ≤ 2 * (scaled.num % scaled.den)
  if up then [below + 1, below] else [below, below + 1]

/-- The fewest digits that read back as `m * 2 ^ q`, as digits and a power of ten; of two equally
short the nearer. -/
def shortest (tie : Tie) (m : Nat) (q : Int) : Nat × Int :=
  let v := fraction m q
  let lead := v.floorLog10
  let grid (n : Nat) : Option (Nat × Int) :=
    let k := lead - n
    (neighbours tie v k).findSome? fun d =>
      if d ≠ 0 && readsBack m q ((Fraction.ofNat d).mul (Fraction.power 10 k)) then some (d, k)
      else none
  ((List.range 17).findSome? grid).getD (0, 0)

end Magnitude

structure Layout where
  /-- Exponents of the first digit from `least` to `greatest` are written with a point. -/
  least : Int
  greatest : Int
  wholePoint : Bool
  plusSign : Bool
  exponentWidth : Nat
  /-- For a number halfway between two last digits. -/
  tie : Tie

namespace Layout

def point (l : Layout) (ds : List Char) (lead : Int) : List Char :=
  if lead < 0 then '0' :: '.' :: List.replicate (-lead - 1).toNat '0' ++ ds
  else
    let whole := lead.toNat + 1
    if ds.length ≤ whole then
      ds ++ List.replicate (whole - ds.length) '0' ++ (if l.wholePoint then ['.', '0'] else [])
    else ds.take whole ++ '.' :: ds.drop whole

def scientific (l : Layout) (ds : List Char) (lead : Int) : List Char :=
  let mark := if lead < 0 then ['-'] else if l.plusSign then ['+'] else []
  ds.take 1 ++ (if ds.length ≤ 1 then [] else '.' :: ds.drop 1) ++
    'e' :: mark ++ Text.digits 10 l.exponentWidth lead.natAbs

def write (l : Layout) (digits : Nat) (exponent : Int) : List Char :=
  let ds := Nat.toDigits 10 digits
  let lead := exponent + (ds.length - 1 : Nat)
  if l.least ≤ lead ∧ lead ≤ l.greatest then l.point ds lead else l.scientific ds lead

/-- Every number in full, whole numbers without a point, halves upwards. -/
def full : Layout := ⟨-400, 400, false, false, 1, .up⟩

end Layout

namespace Binary64

/-- Without the zeros that a carry can leave at the end of the digits. -/
def trimZeros (digits : Nat) (exponent : Int) : Nat → Nat × Int
  | 0 => (digits, exponent)
  | fuel + 1 =>
    if digits ≠ 0 ∧ digits % 10 = 0 then trimZeros (digits / 10) (exponent + 1) fuel
    else (digits, exponent)

def text (l : Layout) (x : Binary64) : String :=
  let unsigned : List Char := match x.magnitude with
    | .notANumber => "NaN".toList
    | .infinite => "inf".toList
    | .finite m q =>
      if m = 0 then l.write 0 0
      else
        let (d, k) := Magnitude.shortest l.tie m q
        let (d, k) := trimZeros d k 20
        l.write d k
  String.ofList (if x.negative && x.magnitude ≠ .notANumber then '-' :: unsigned else unsigned)

def ofNat (n : Nat) : Binary64 := ⟨false, Magnitude.nearest (Fraction.ofNat n)⟩

def takeDigits (value count : Nat) : List Char → Nat × Nat × List Char
  | [] => (value, count, [])
  | c :: rest =>
    if c.isDigit then takeDigits (value * 10 + Text.decimalValue c) (count + 1) rest
    else (value, count, c :: rest)

def signed : List Char → Bool × List Char
  | '-' :: rest => (true, rest)
  | '+' :: rest => (false, rest)
  | rest => (false, rest)

def exponentPart : List Char → Option Int
  | [] => some 0
  | c :: rest =>
    if c = 'e' ∨ c = 'E' then
      let (negative, rest) := signed rest
      match takeDigits 0 0 rest with
      | (_, 0, _) => none
      | (n, _, []) => some (if negative then -n else n)
      | _ => none
    else none

def unsigned? (cs : List Char) : Option Magnitude :=
  let (whole, wholeCount, rest) := takeDigits 0 0 cs
  let (digits, places, rest) := match rest with
    | '.' :: rest => takeDigits whole 0 rest
    | rest => (whole, 0, rest)
  if wholeCount + places = 0 then none
  else (exponentPart rest).map fun e => Magnitude.ofDecimal digits (e - places)

def ofText? (cs : List Char) : Option Binary64 :=
  let (negative, rest) := signed cs
  (unsigned? rest).map fun m => ⟨negative, m⟩

end Binary64

end VaultRing
