import BlockIndexer.Word

/-! Unsigned numerals: digits of a base, with underscores between them ignored, after an optional
marker that chooses the base. A numeral without digits is zero. -/

namespace BlockIndexer.Text

/-- The worth of a digit, letters counting from ten in either case. -/
def digit? (c : Char) : Option Nat :=
  if '0' ≤ c ∧ c ≤ '9' then some (c.toNat - '0'.toNat)
  else if 'a' ≤ c ∧ c ≤ 'z' then some (c.toNat - 'a'.toNat + 10)
  else if 'A' ≤ c ∧ c ≤ 'Z' then some (c.toNat - 'A'.toNat + 10)
  else none

def digitBelow? (base : Nat) (c : Char) : Option Nat :=
  (digit? c).filter (· < base)

/-- The number that digits of `base` write after `n`, underscores apart. -/
def natOfDigits? (base : Nat) : List Char → Nat → Option Nat
  | [], n => some n
  | '_' :: cs, n => natOfDigits? base cs n
  | c :: cs, n => (digitBelow? base c).bind fun d => natOfDigits? base cs (base * n + d)

/-- The base that a numeral's marker chooses, and what follows the marker. -/
def splitBase : List Char → Nat × List Char
  | '0' :: 'x' :: cs => (16, cs)
  | '0' :: 'X' :: cs => (16, cs)
  | '0' :: 'o' :: cs => (8, cs)
  | '0' :: 'O' :: cs => (8, cs)
  | '0' :: 'b' :: cs => (2, cs)
  | '0' :: 'B' :: cs => (2, cs)
  | cs => (10, cs)

def numeral? (cs : List Char) : Option Nat :=
  natOfDigits? (splitBase cs).1 (splitBase cs).2 0

/-- The number of a numeral that fits in so many bits. -/
def word? (bits : Nat) (cs : List Char) : Option Nat :=
  (numeral? cs).filter (FitsIn bits ·)

/-- Base 16 text after its marker, as it is written in requests. -/
def hexNumeral (n : Nat) : String := "0x" ++ String.ofList (Nat.toDigits 16 n)

end BlockIndexer.Text
