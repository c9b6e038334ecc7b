import VaultRing.Binary64
import VaultRing.Json.Fault

namespace VaultRing.Json

inductive Number where
  | natural (n : Nat)
  | negative (n : Int)
  | real (x : Binary64)

namespace Number

def layout : Layout := ⟨-5, 15, true, true, 1, .toEven⟩

def shown : Number → String
  | .natural n => "integer " ++ accented (toString n)
  | .negative n => "integer " ++ accented (toString n)
  | .real x => "floating point " ++ accented (x.text layout)

def startsWithDigit : List Char → Bool
  | [] => false
  | c :: _ => c.isDigit

def dropDigits (p : Cursor) : Cursor :=
  ⟨p.offset + (p.rest.takeWhile Char.isDigit).length, p.rest.dropWhile Char.isDigit⟩

/-- Appends digits to `n` as long as the result stays below `limit`; with their count. -/
def accumulate (limit n count : Nat) : List Char → Nat × Nat × List Char
  | [] => (n, count, [])
  | c :: rest =>
    if c.isDigit && n * 10 + VaultRing.Text.decimalValue c < limit then
      accumulate limit (n * 10 + VaultRing.Text.decimalValue c) (count + 1) rest
    else (n, count, c :: rest)

def exponentSign (p : Cursor) : Bool × Cursor :=
  match p.rest with
  | '-' :: rest => (true, ⟨p.offset + 1, rest⟩)
  | '+' :: rest => (false, ⟨p.offset + 1, rest⟩)
  | _ => (false, p)

def skipExponent (p : Cursor) : Except Fault Cursor :=
  let (_, p) := exponentSign p
  if startsWithDigit p.rest then .ok (dropDigits p) else .error (.placed p.blamed .invalidNumber)

def skipFraction (p : Cursor) : Except Fault Cursor :=
  if !startsWithDigit p.rest then .error (.placed p.blamed .invalidNumber)
  else
    let p := dropDigits p
    match p.rest with
    | 'e' :: rest | 'E' :: rest => skipExponent ⟨p.offset + 1, rest⟩
    | _ => .ok p

def skip (p : Cursor) : Except Fault Cursor :=
  let whole : Except Fault Cursor :=
    match p.rest with
    | '0' :: rest =>
      if startsWithDigit rest then .error (.placed (p.offset + 2) .invalidNumber)
      else .ok ⟨p.offset + 1, rest⟩
    | _ => if startsWithDigit p.rest then .ok (dropDigits p)
      else .error (.placed p.blamed .invalidNumber)
  whole.bind fun p =>
    match p.rest with
    | '.' :: rest => skipFraction ⟨p.offset + 1, rest⟩
    | 'e' :: rest | 'E' :: rest => skipExponent ⟨p.offset + 1, rest⟩
    | _ => .ok p

def rounded (op : Fraction → Fraction → Fraction) : Magnitude → Magnitude → Magnitude
  | .finite m p, .finite n q =>
    Magnitude.nearest (op (Magnitude.fraction m p) (Magnitude.fraction n q))
  | _, _ => .notANumber

def powerOfTen (e : Nat) : Magnitude := Magnitude.ofDecimal 1 e

/-- Divides by `10 ^ e`, by at most `10 ^ 308` at a time. Three such steps leave nothing of a
64-bit number. -/
def scaleDown (x : Magnitude) (e : Nat) : Nat → Magnitude
  | 0 => x
  | steps + 1 =>
    if e ≤ 308 then rounded Fraction.div x (powerOfTen e)
    else scaleDown (rounded Fraction.div x (powerOfTen 308)) (e - 308) steps

/-- `digits * 10 ^ e`, rounded at every step. -/
def scaled? (digits : Nat) (e : Int) : Option Magnitude :=
  let x := Magnitude.nearest (Fraction.ofNat digits)
  if e < 0 then some (scaleDown x e.natAbs 4)
  else if digits = 0 then some x
  else if 308 < e then none
  else
    match rounded Fraction.mul x (powerOfTen e.toNat) with
    | .infinite => none
    | y => some y

def ofParts (negative : Bool) (digits : Nat) (e : Int) (p : Cursor) :
    Except Fault (Number × Cursor) :=
  match scaled? digits e with
  | some x => .ok (.real ⟨negative, x⟩, p)
  | none => .error (.placed p.offset .numberOutOfRange)

def readExponent (negative : Bool) (digits : Nat) (e : Int) (p : Cursor) :
    Except Fault (Number × Cursor) :=
  let (down, p) := exponentSign p
  match p.rest with
  | [] => .error (.placed p.offset (.unfinished .value))
  | c :: _ =>
    if !c.isDigit then .error (.placed (p.offset + 1) .invalidNumber)
    else
      let (n, count, rest) := accumulate (Nat.pow 2 31) 0 0 p.rest
      let p : Cursor := ⟨p.offset + count, rest⟩
      if startsWithDigit rest then
        if digits ≠ 0 && !down then .error (.placed (p.offset + 1) .numberOutOfRange)
        else .ok (.real ⟨negative, Magnitude.nearest ⟨0, 1⟩⟩, dropDigits p)
      else ofParts negative digits (if down then e - n else e + n) p

def readScale (negative : Bool) (digits : Nat) (e : Int) (p : Cursor) :
    Except Fault (Number × Cursor) :=
  match p.rest with
  | 'e' :: rest | 'E' :: rest => readExponent negative digits e ⟨p.offset + 1, rest⟩
  | _ => ofParts negative digits e p

/-- Continues after the point. Digits that 64 bits cannot hold are left out. -/
def readFraction (negative : Bool) (digits : Nat) (e : Int) (p : Cursor) :
    Except Fault (Number × Cursor) :=
  let (digits, count, rest) := accumulate (Nat.pow 2 64) digits 0 p.rest
  let p : Cursor := ⟨p.offset + count, rest⟩
  if startsWithDigit rest then readScale negative digits (e - count) (dropDigits p)
  else if count = 0 then
    .error (.placed p.blamed (if rest.isEmpty then .unfinished .value else .invalidNumber))
  else readScale negative digits (e - count) p

/-- Continues after whole digits of which the last `dropped` are not in `digits`. -/
def readRest (negative : Bool) (digits dropped : Nat) (p : Cursor) :
    Except Fault (Number × Cursor) :=
  match p.rest with
  | '.' :: rest => readFraction negative digits dropped ⟨p.offset + 1, rest⟩
  | 'e' :: rest | 'E' :: rest => readExponent negative digits dropped ⟨p.offset + 1, rest⟩
  | _ =>
    if 0 < dropped then ofParts negative digits dropped p
    else if !negative then .ok (.natural digits, p)
    else if digits = 0 ∨ Nat.pow 2 63 < digits then
      .ok (.real ⟨true, Magnitude.nearest (Fraction.ofNat digits)⟩, p)
    else .ok (.negative (-digits), p)

def read (negative : Bool) (p : Cursor) : Except Fault (Number × Cursor) :=
  match p.rest with
  | [] => .error (.placed p.offset (.unfinished .value))
  | '0' :: rest =>
    if startsWithDigit rest then .error (.placed (p.offset + 2) .invalidNumber)
    else readRest negative 0 0 ⟨p.offset + 1, rest⟩
  | c :: _ =>
    if !c.isDigit then .error (.placed (p.offset + 1) .invalidNumber)
    else
      let (digits, count, rest) := accumulate (Nat.pow 2 64) 0 0 p.rest
      let p : Cursor := ⟨p.offset + count, rest⟩
      let q := dropDigits p
      readRest negative digits (q.offset - p.offset) q

end Number

end VaultRing.Json
