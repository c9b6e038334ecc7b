namespace VaultRing.Url.Punycode

def digit (n : Nat) : Char := if n < 26 then Char.ofNat (97 + n) else Char.ofNat (22 + n)

def value? (c : Char) : Option Nat :=
  if c.isLower then some (c.toNat - 97)
  else if c.isUpper then some (c.toNat - 65)
  else if c.isDigit then some (c.toNat - 22)
  else none

def threshold (k bias : Nat) : Nat :=
  if k ≤ bias + 1 then 1 else if bias + 26 ≤ k then 26 else k - bias

def reduce (delta steps : Nat) : Nat → Nat × Nat
  | 0 => (delta, steps)
  | fuel + 1 => if 455 < delta then reduce (delta / 35) (steps + 1) fuel else (delta, steps)

def adapt (delta count : Nat) (first : Bool) : Nat :=
  let delta := if first then delta / 700 else delta / 2
  let delta := delta + delta / count
  let (delta, steps) := reduce delta 0 delta
  36 * steps + 36 * delta / (delta + 38)

def number (bias k q : Nat) : Nat → List Char
  | 0 => []
  | fuel + 1 =>
    let t := threshold k bias
    if q < t then [digit q]
    else digit (t + (q - t) % (36 - t)) :: number bias (k + 36) ((q - t) / (36 - t)) fuel

/-- What is known after some characters have been written. -/
structure State where
  delta : Nat
  bias : Nat
  written : Nat
  first : Bool

def insertions (m : Nat) (s : State) : List Char → State × List Char
  | [] => ({ s with delta := s.delta + 1 }, [])
  | c :: rest =>
    if c.toNat < m then insertions m { s with delta := s.delta + 1 } rest
    else if c.toNat = m then
      let bias := adapt s.delta (s.written + 1) s.first
      let (t, out) := insertions m ⟨0, bias, s.written + 1, false⟩ rest
      (t, number s.bias 36 s.delta (s.delta + 1) ++ out)
    else insertions m s rest

def extended (label : List Char) (n : Nat) (s : State) : Nat → List Char
  | 0 => []
  | fuel + 1 =>
    match (label.map Char.toNat).filter (n ≤ ·) with
    | [] => []
    | m :: ms =>
      let m := ms.foldl min m
      let (s, out) := insertions m { s with delta := s.delta + (m - n) * (s.written + 1) } label
      out ++ extended label (m + 1) s fuel

def encode (label : List Char) : List Char :=
  let basic := label.filter (·.toNat < 128)
  let start := if basic.isEmpty then [] else basic ++ ['-']
  start ++ extended label 128 ⟨0, 72, basic.length, true⟩ label.length

def numberLimit : Nat := Nat.pow 2 32

/-- Reads one number: its value and what follows. -/
def takeNumber? (bias k i weight : Nat) : List Char → Option (Nat × List Char)
  | [] => none
  | c :: rest =>
    (value? c).bind fun d =>
      let t := threshold k bias
      let i := i + d * weight
      if numberLimit ≤ i then none
      else if d < t then some (i, rest)
      else if numberLimit ≤ weight * (36 - t) then none
      else takeNumber? bias (k + 36) i (weight * (36 - t)) rest

def insert? (n i bias : Nat) (first : Bool) (out : List Char) (cs : List Char) :
    Nat → Option (List Char)
  | 0 => if cs.isEmpty then some out else none
  | fuel + 1 =>
    if cs.isEmpty then some out
    else
      (takeNumber? bias 36 i 1 cs).bind fun (j, rest) =>
        let count := out.length + 1
        let code := n + j / count
        let place := j % count
        if 0x10FFFF < code ∨ (0xD800 ≤ code ∧ code < 0xE000) then none
        else
          insert? code (place + 1) (adapt (j - i) count first) false
            (out.take place ++ Char.ofNat code :: out.drop place) rest fuel

/-- The part before the last hyphen and the part after it. A hyphen with nothing before it does
not separate. -/
def splitAtHyphen (cs : List Char) : List Char × List Char :=
  let tail := (cs.reverse.takeWhile (· ≠ '-')).reverse
  match cs.take (cs.length - tail.length - 1) with
  | [] => ([], cs)
  | basic => (basic, tail)

def decode? (cs : List Char) : Option (List Char) :=
  let (basic, rest) := splitAtHyphen cs
  insert? 128 0 72 true basic rest rest.length

end VaultRing.Url.Punycode
