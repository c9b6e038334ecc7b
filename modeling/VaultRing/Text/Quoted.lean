import VaultRing.Text.Printable

namespace VaultRing.Text

/-- Quotes, backslashes and the common controls have short escapes. Whatever cannot be printed,
or would be drawn onto the quote before it, is shown by its code point. -/
def escapeChar (c : Char) : List Char :=
  match c with
  | '\x00' => ['\\', '0']
  | '\t' => ['\\', 't']
  | '\r' => ['\\', 'r']
  | '\n' => ['\\', 'n']
  | '"' => ['\\', '"']
  | '\\' => ['\\', '\\']
  | c =>
    if isPrintable c && !extendsGrapheme c then [c]
    else ['\\', 'u', '\x7b'] ++ Nat.toDigits 16 c.toNat ++ ['\x7d']

def quoted (s : String) : String :=
  String.ofList ('"' :: s.toList.flatMap escapeChar ++ ['"'])

def listed (items : List String) : String :=
  "[" ++ ", ".intercalate items ++ "]"

def quotedList (items : List String) : String := listed (items.map quoted)

/-- A record with the given members, such as `Point \x7b x: 1, y: 2 \x7d`. -/
def record (name : String) (members : List (String × String)) : String :=
  name ++ " \x7b " ++ ", ".intercalate (members.map fun m => m.1 ++ ": " ++ m.2) ++ " \x7d"

def applied (name argument : String) : String := name ++ "(" ++ argument ++ ")"

def shownBool (b : Bool) : String := if b then "true" else "false"

end VaultRing.Text
