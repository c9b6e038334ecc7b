import VaultRing.Url.Domain
import VaultRing.Url.Percent

namespace VaultRing.Url

inductive Host where
  | domain (name : List Char)
  | ipv4 (address : Nat)
  | ipv6 (groups : List Nat)
deriving DecidableEq

namespace Host

/-- A part of an address: octal after `0`, hexadecimal after `0x`. -/
def addressPart? : List Char → Option Nat
  | [] => none
  | ['0'] => some 0
  | '0' :: 'x' :: ds | '0' :: 'X' :: ds => Text.number? 16 ds
  | '0' :: ds => Text.number? 8 ds
  | ds => Text.number? 10 ds

def withoutEmptyEnd (parts : List (List Char)) : List (List Char) :=
  match parts.reverse with
  | [] :: p :: rest => (p :: rest).reverse
  | _ => parts

/-- Whether a name must be an address because its last part is a number. -/
def endsInNumber (name : List Char) : Bool :=
  match (withoutEmptyEnd (Domain.splitLabels name)).getLast? with
  | none => false
  | some part => (!part.isEmpty && part.all Char.isDigit) || (addressPart? part).isSome

/-- One to four parts; the last fills what the others leave. -/
def ipv4? (name : List Char) : Option Nat := do
  let parts := withoutEmptyEnd (Domain.splitLabels name)
  if 4 < parts.length then none
  let numbers ← parts.mapM addressPart?
  let first := numbers.dropLast
  let last ← numbers.getLast?
  if Nat.pow 256 (4 - first.length) ≤ last ∨ first.any (255 < ·) then none
  return first.foldl (fun n part => n * 256 + part) 0 * Nat.pow 256 (4 - first.length) + last

/-- Up to four hexadecimal digits, with their count. -/
def takeGroup (n count : Nat) : Nat → List Char → Nat × Nat × List Char
  | 0, cs => (n, count, cs)
  | _, [] => (n, count, [])
  | room + 1, c :: rest =>
    match Text.hexValue? c with
    | some d => takeGroup (n * 16 + d) (count + 1) room rest
    | none => (n, count, c :: rest)

def byte? (cs : List Char) : Option Nat :=
  match cs with
  | [] => none
  | ['0'] => some 0
  | '0' :: _ => none
  | ds => if ds.all Char.isDigit then (Text.number? 10 ds).filter (· < 256) else none

def embedded? (cs : List Char) : Option (List Nat) := do
  match ← (Domain.splitLabels cs).mapM byte? with
  | [a, b, c, d] => some [a * 256 + b, c * 256 + d]
  | _ => none

/-- Reads groups, of which `room` still fit, after `groups`. `gap` is the place of the omitted
zeros. -/
def groups? (gap : Option Nat) (groups : List Nat) :
    Nat → List Char → Option (Option Nat × List Nat)
  | _, [] => some (gap, groups)
  | 0, _ :: _ => none
  | room + 1, ':' :: rest =>
    if gap.isSome then none else groups? (some groups.length) groups room rest
  | room + 1, cs =>
    let (n, count, rest) := takeGroup 0 0 4 cs
    match rest with
    | [] => some (gap, groups ++ [n])
    | '.' :: _ =>
      if count = 0 ∨ room = 0 then none
      else (embedded? cs).map fun two => (gap, groups ++ two)
    | [':'] => none
    | ':' :: rest => groups? gap (groups ++ [n]) room rest
    | _ => none

def ipv6? (cs : List Char) : Option (List Nat) := do
  let (gap, groups) ← match cs with
    | ':' :: ':' :: rest => groups? (some 0) [] 7 rest
    | ':' :: _ | [] | [_] => none
    | _ => groups? none [] 8 cs
  match gap with
  | some k => some (groups.take k ++ List.replicate (8 - groups.length) 0 ++ groups.drop k)
  | none => if groups.length = 8 then some groups else none

def leadingZeros (groups : List Nat) : Nat := (groups.takeWhile (· == 0)).length

def longestZeros (place : Nat) (best : Nat × Nat) : List Nat → Nat × Nat
  | [] => best
  | n :: rest =>
    let run := leadingZeros (n :: rest)
    longestZeros (place + 1) (if best.2 < run then (place, run) else best) rest

def joinGroups (groups : List Nat) : List Char :=
  [':'].intercalate (groups.map (Nat.toDigits 16))

/-- The longest run of two or more zero groups is left out. -/
def ipv6Text (groups : List Nat) : List Char :=
  let (place, run) := longestZeros 0 (0, 0) groups
  if run < 2 then joinGroups groups
  else joinGroups (groups.take place) ++ ':' :: ':' :: joinGroups (groups.drop (place + run))

def ipv4Text (address : Nat) : List Char :=
  let byte (k : Nat) := Nat.toDigits 10 (address / Nat.pow 256 k % 256)
  byte 3 ++ '.' :: byte 2 ++ '.' :: byte 1 ++ '.' :: byte 0

def text : Host → List Char
  | .domain name => name
  | .ipv4 address => ipv4Text address
  | .ipv6 groups => '[' :: ipv6Text groups ++ [']']

def ofChars? (cs : List Char) : Option Host :=
  match cs with
  | '[' :: rest =>
    if rest.getLast? = some ']' then (ipv6? rest.dropLast).map .ipv6 else none
  | _ => do
    let decoded ← String.fromUTF8? ⟨(percentDecode cs).toArray⟩
    let name ← Domain.ofChars? decoded.toList
    if name.isEmpty then none
    else if endsInNumber name then (ipv4? name).map .ipv4
    else some (.domain name)

end Host

end VaultRing.Url
