import VaultRing.Json.Text

namespace VaultRing.Json

inductive Value where
  | null
  | bool (b : Bool)
  | number (digits : List Char)
  | string (s : String)
  | array (items : List Value)
  | object (members : List (String × Value))

namespace Value

mutual

def write : Value → List Char
  | .null => ['n', 'u', 'l', 'l']
  | .bool b => if b then ['t', 'r', 'u', 'e'] else ['f', 'a', 'l', 's', 'e']
  | .number digits => digits
  | .string s => Text.write s
  | .array items => '[' :: writeItems items ++ [']']
  | .object members => '\x7b' :: writeMembers members ++ ['\x7d']

def writeItems : List Value → List Char
  | [] => []
  | [v] => write v
  | v :: rest => write v ++ ',' :: writeItems rest

def writeMembers : List (String × Value) → List Char
  | [] => []
  | [(k, v)] => Text.write k ++ ':' :: write v
  | (k, v) :: rest => Text.write k ++ ':' :: write v ++ ',' :: writeMembers rest

end

def text (v : Value) : String := String.ofList v.write

def strings (items : List String) : Value := .array (items.map .string)

end Value

end VaultRing.Json
