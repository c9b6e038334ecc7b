import VaultRing.Text.Digits

namespace VaultRing.Text

abbrev Ranges := List (Nat × Nat)

namespace Ranges

/-- Reads intervals such as `61-7a` and single points such as `5f`, each ended by a blank.
`low` is the first end of an interval whose second end is being read. -/
def scan (low : Option Nat) (value : Nat) : List Char → Ranges
  | [] => []
  | ' ' :: rest => (low.getD value, value) :: scan none 0 rest
  | '-' :: rest => scan (some value) 0 rest
  | c :: rest => scan low (value * 16 + (hexValue? c).getD 0) rest

def ofText (lines : List String) : Ranges :=
  lines.flatMap fun line => scan none 0 (line.toList ++ [' '])

def contains (ranges : Ranges) (c : Char) : Bool :=
  ranges.any fun r => r.1 ≤ c.toNat && c.toNat ≤ r.2

end Ranges

end VaultRing.Text
