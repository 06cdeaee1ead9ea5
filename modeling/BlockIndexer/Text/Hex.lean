import BlockIndexer.Text.Numeral

/-! Bytes as hexadecimal text: two digits a byte, written in lower case after `0x`, read in either
case with or without that marker. -/

namespace BlockIndexer.Text.Hex

def digit? (c : Char) : Option UInt8 := (digitBelow? 16 c).map Nat.toUInt8

/-- The bytes that pairs of digits write; an odd digit at the end is refused. -/
def pairs? : List Char → Option (List UInt8)
  | [] => some []
  | [_] => none
  | high :: low :: cs =>
    (digit? high).bind fun h => (digit? low).bind fun l =>
      (pairs? cs).map ((h * 16 + l) :: ·)

/-- What follows the marker, if there is one. -/
def unmarked : List Char → List Char
  | '0' :: 'x' :: cs => cs
  | '0' :: 'X' :: cs => cs
  | cs => cs

def decode? (cs : List Char) : Option (List UInt8) := pairs? (unmarked cs)

/-- The two digits of a byte, the high one first. -/
def byteDigits (b : UInt8) : List Char :=
  [Nat.digitChar (b.toNat / 16), Nat.digitChar (b.toNat % 16)]

def encode (bytes : List UInt8) : List Char := '0' :: 'x' :: bytes.flatMap byteDigits

def text (bytes : List UInt8) : String := String.ofList (encode bytes)

end BlockIndexer.Text.Hex
