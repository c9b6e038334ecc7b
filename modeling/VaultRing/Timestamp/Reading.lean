import VaultRing.Timestamp

namespace VaultRing.Timestamp

inductive Fault where
  | tooShort
  | invalid
  | outOfRange
  | impossible
  | tooLong
deriving DecidableEq

def Fault.message : Fault → String
  | .tooShort => "premature end of input"
  | .invalid => "input contains invalid characters"
  | .outOfRange => "input is out of range"
  | .impossible => "no possible date and time matching input"
  | .tooLong => "trailing input"

def isBlank (c : Char) : Bool :=
  let n := c.toNat
  (9 ≤ n && n ≤ 13) || n == 0x20 || n == 0x85 || n == 0xA0 || n == 0x1680 ||
    (0x2000 ≤ n && n ≤ 0x200A) || n == 0x2028 || n == 0x2029 || n == 0x202F || n == 0x205F ||
    n == 0x3000

def skipBlanks (cs : List Char) : List Char := cs.dropWhile isBlank

def number (width : Nat) (cs : List Char) : Except Fault (Nat × List Char) :=
  match cs with
  | [] => .error .tooShort
  | c :: _ =>
    if !c.isDigit then .error .invalid
    else
      let ds := (cs.take width).takeWhile Char.isDigit
      .ok (Text.decimal ds, cs.drop ds.length)

def longNumber (cs : List Char) : Except Fault (Nat × List Char) := number cs.length cs

def bounded (low high : Nat) (cs : List Char) : Except Fault (Nat × List Char) :=
  (number 2 (skipBlanks cs)).bind fun (n, rest) =>
    if low ≤ n ∧ n ≤ high then .ok (n, rest) else .error .outOfRange

def mark (c : Char) (cs : List Char) : Except Fault (List Char) :=
  match skipBlanks cs with
  | [] => .error .tooShort
  | d :: rest => if d = c then .ok rest else .error .invalid

/-- Four digits, or any number of them after a sign. -/
def signedYear (cs : List Char) : Except Fault (Int × List Char) :=
  match skipBlanks cs with
  | '-' :: rest => (longNumber rest).map fun (n, rest) => (-n, rest)
  | '+' :: rest => (longNumber rest).map fun (n, rest) => (n, rest)
  | rest => (number 4 rest).map fun (n, rest) => (n, rest)

def year (cs : List Char) : Except Fault (Int × List Char) :=
  (signedYear cs).bind fun (y, rest) =>
    if -2147483648 ≤ y ∧ y ≤ 2147483647 then .ok (y, rest) else .error .outOfRange

/-- Nanoseconds; digits after the ninth are dropped. -/
def fraction (cs : List Char) : Except Fault (Nat × List Char) :=
  match cs with
  | '.' :: rest =>
    (number 9 rest).map fun (n, after) =>
      (n * Nat.pow 10 (9 - (rest.length - after.length)), after.dropWhile Char.isDigit)
  | _ => .ok (0, cs)

def twoDigits (cs : List Char) : Except Fault (Nat × List Char) :=
  match cs with
  | [] => .error .tooShort
  | [c] => .error (if c.toNat < 128 then .tooShort else .invalid)
  | a :: b :: rest =>
    if a.isDigit && b.isDigit then .ok (Text.decimal [a, b], rest) else .error .invalid

def signedOffset (cs : List Char) : Except Fault (Int × List Char) :=
  let negative? : Except Fault (Bool × List Char) :=
    match cs with
    | '+' :: rest => .ok (false, rest)
    | '-' :: rest | '−' :: rest => .ok (true, rest)
    | [] => .error .tooShort
    | _ => .error .invalid
  negative?.bind fun (negative, rest) =>
    (twoDigits rest).bind fun (hours, rest) =>
      (twoDigits (rest.dropWhile fun c => c == ':' || isBlank c)).bind fun (minutes, rest) =>
        if 59 < minutes then .error .outOfRange
        else
          let total : Int := hours * 60 + minutes
          .ok (if negative then -total else total, rest)

/-- The offset from UTC in minutes. -/
def offset (cs : List Char) : Except Fault (Int × List Char) :=
  match cs with
  | 'Z' :: rest | 'z' :: rest => .ok (0, rest)
  | u :: t :: c :: rest =>
    if u.toUpper = 'U' ∧ t.toUpper = 'T' ∧ c.toUpper = 'C' then .ok (0, rest)
    else signedOffset cs
  | _ => signedOffset cs

def dateMark (cs : List Char) : Except Fault (List Char) :=
  match cs with
  | 't' :: rest | 'T' :: rest | ' ' :: rest => .ok rest
  | [] => .error .tooShort
  | _ => .error .invalid

/-- The time stamp whose local clock shows `t`, `minutes` ahead of UTC. -/
def moved (t : Timestamp) (minutes : Int) : Except Fault Timestamp :=
  let total : Int := t.hour.val * 60 + t.minute.val - minutes
  let date? : Option Date :=
    if total < 0 then t.date.previous? else if 1440 ≤ total then t.date.next? else some t.date
  match date? with
  | none => .error .impossible
  | some date =>
    let clock := (total % 1440).toNat
    .ok { t with date, hour := Fin.ofNat 24 (clock / 60), minute := Fin.ofNat 60 (clock % 60) }

def ofChars (cs : List Char) : Except Fault Timestamp := do
  let (y, cs) ← year cs
  let cs ← mark '-' cs
  let (mo, cs) ← bounded 1 12 cs
  let cs ← mark '-' cs
  let (d, cs) ← bounded 1 31 cs
  let cs ← dateMark cs
  let (h, cs) ← bounded 0 23 cs
  let cs ← mark ':' cs
  let (mi, cs) ← bounded 0 59 cs
  let cs ← mark ':' cs
  let (s, cs) ← bounded 0 60 cs
  let (n, cs) ← fraction cs
  let (minutes, cs) ← offset (skipBlanks cs)
  if !(skipBlanks cs).isEmpty then throw .tooLong
  match Date.of? y mo d with
  | none => throw .outOfRange
  | some date =>
    if minutes ≤ -1440 ∨ 1440 ≤ minutes then throw .outOfRange
    moved ⟨date, Fin.ofNat 24 h, Fin.ofNat 60 mi, Fin.ofNat 61 s, Fin.ofNat 1000000000 n⟩ minutes

def ofText (s : String) : Except Fault Timestamp := ofChars s.toList

end VaultRing.Timestamp
