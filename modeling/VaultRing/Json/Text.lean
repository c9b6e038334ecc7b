import VaultRing.Json.Fault

namespace VaultRing.Json.Text

def escapeChar (c : Char) : List Char :=
  match c with
  | '"' => ['\\', '"']
  | '\\' => ['\\', '\\']
  | '\n' => ['\\', 'n']
  | '\r' => ['\\', 'r']
  | '\t' => ['\\', 't']
  | '\x08' => ['\\', 'b']
  | '\x0c' => ['\\', 'f']
  | c => if c.toNat < 32 then '\\' :: 'u' :: VaultRing.Text.digits 16 4 c.toNat else [c]

def write (s : String) : List Char := '"' :: s.toList.flatMap escapeChar ++ ['"']

/-- The UTF-16 unit with the given four digits. -/
def unit? (a b c d : Char) : Option Nat := VaultRing.Text.number? 16 [a, b, c, d]

def isHigh (n : Nat) : Bool := 0xD800 ≤ n && n < 0xDC00

def isLow (n : Nat) : Bool := 0xDC00 ≤ n && n < 0xE000

def joined (high low : Nat) : Char :=
  Char.ofNat ((high - 0xD800) * 0x400 + (low - 0xDC00) + 0x10000)

def escaped? (c : Char) : Option Char :=
  match c with
  | '"' | '\\' | '/' => some c
  | 'b' => some '\x08'
  | 'f' => some '\x0c'
  | 'n' => some '\n'
  | 'r' => some '\r'
  | 't' => some '\t'
  | _ => none

def byteCount (cs : List Char) : Nat := cs.foldl (fun n c => n + c.utf8Size) 0

/-- The fault of an escape by number whose digits, looked for from `offset` on, are not there. -/
def brokenUnit (offset : Nat) (rest : List Char) : Fault :=
  if byteCount rest < 4 then .placed (offset + byteCount rest) (.unfinished .string)
  else .placed (offset + 4) .invalidEscape

abbrev Body := Except Fault (List Char × Cursor)

def Body.cons (c : Char) (b : Body) : Body := b.map fun (s, p) => (c :: s, p)

/-- The contents of a string, up to its closing quote. After the first half of a surrogate pair,
`high`, the second half must follow. -/
def body (offset : Nat) (high : Option Nat) : List Char → Body
  | '\\' :: 'u' :: a :: b :: c :: d :: rest =>
    match unit? a b c d, high with
    | none, _ => .error (brokenUnit (offset + 2) (a :: b :: c :: d :: rest))
    | some n, some h =>
      if isLow n then .cons (joined h n) (body (offset + 6) none rest)
      else .error (.placed (offset + 6) .loneSurrogate)
    | some n, none =>
      if isHigh n then body (offset + 6) (some n) rest
      else if isLow n then .error (.placed (offset + 6) .loneSurrogate)
      else .cons (Char.ofNat n) (body (offset + 6) none rest)
  | '\\' :: 'u' :: rest => .error (brokenUnit (offset + 2) rest)
  | ['\\'] => .error (.placed (offset + 1) (.unfinished .string))
  | '\\' :: c :: rest =>
    match escaped? c, high with
    | _, some _ => .error (.placed (offset + 2) .unfinishedEscape)
    | none, none => .error (.placed (offset + 2) .invalidEscape)
    | some e, none => .cons e (body (offset + 2) none rest)
  | [] => .error (.placed offset (.unfinished .string))
  | c :: rest =>
    if high.isSome then .error (.placed (offset + 1) .unfinishedEscape)
    else if c = '"' then .ok ([], ⟨offset + 1, rest⟩)
    else if c.toNat < 32 then .error (.placed (offset + 1) .controlCharacter)
    else .cons c (body (offset + c.utf8Size) none rest)

/-- The place after the closing quote. Escapes by number are not put together. -/
def skip (offset : Nat) : List Char → Except Fault Cursor
  | '\\' :: 'u' :: a :: b :: c :: d :: rest =>
    if (unit? a b c d).isSome then skip (offset + 6) rest
    else .error (brokenUnit (offset + 2) (a :: b :: c :: d :: rest))
  | '\\' :: 'u' :: rest => .error (brokenUnit (offset + 2) rest)
  | ['\\'] => .error (.placed (offset + 1) (.unfinished .string))
  | '\\' :: c :: rest =>
    if (escaped? c).isSome then skip (offset + 2) rest
    else .error (.placed (offset + 2) .invalidEscape)
  | [] => .error (.placed offset (.unfinished .string))
  | c :: rest =>
    if c = '"' then .ok ⟨offset + 1, rest⟩
    else if c.toNat < 32 then .error (.placed offset .controlCharacter)
    else skip (offset + c.utf8Size) rest

end VaultRing.Json.Text
