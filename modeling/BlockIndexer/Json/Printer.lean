import BlockIndexer.Json.Value

/-! The compact text of a value: no blanks, control characters escaped, everything else raw. -/

namespace BlockIndexer.Json

def unitDigits (n : Nat) : List Char :=
  [n / 4096 % 16, n / 256 % 16, n / 16 % 16, n % 16].map Nat.digitChar

/-- How a character is written between quotes. -/
def escape (c : Char) : List Char :=
  if c = '"' then ['\\', '"']
  else if c = '\\' then ['\\', '\\']
  else if c = '\x08' then ['\\', 'b']
  else if c = '\x0c' then ['\\', 'f']
  else if c = '\n' then ['\\', 'n']
  else if c = '\r' then ['\\', 'r']
  else if c = '\t' then ['\\', 't']
  else if c.toNat < 0x20 then '\\' :: 'u' :: unitDigits c.toNat
  else [c]

def quoted (s : String) : List Char := '"' :: s.toList.flatMap escape ++ ['"']

def Exponent.chars (e : Exponent) : List Char :=
  'e' :: (if e.negative then '-' else '+') :: e.digits.chars

def Number.chars (n : Number) : List Char :=
  (if n.negative then ['-'] else []) ++ Nat.toDigits 10 n.whole
    ++ n.fraction.elim [] (fun ds => '.' :: ds.chars) ++ n.exponent.elim [] Exponent.chars

def Number.text (n : Number) : String := String.ofList n.chars

mutual

def chars : Value → List Char
  | .null => "null".toList
  | .bool true => "true".toList
  | .bool false => "false".toList
  | .number n => n.chars
  | .string s => quoted s
  | .array [] => ['[', ']']
  | .array (v :: vs) => '[' :: chars v ++ itemsChars vs
  | .object [] => ['{', '}']
  | .object ((k, v) :: ms) => '{' :: quoted k ++ ':' :: chars v ++ membersChars ms

/-- The items after the first, with the bracket that ends them. -/
def itemsChars : List Value → List Char
  | [] => [']']
  | v :: vs => ',' :: chars v ++ itemsChars vs

/-- The members after the first, with the brace that ends them. -/
def membersChars : List (String × Value) → List Char
  | [] => ['}']
  | (k, v) :: ms => ',' :: quoted k ++ ':' :: chars v ++ membersChars ms

end

def text (v : Value) : String := String.ofList v.chars

end BlockIndexer.Json
