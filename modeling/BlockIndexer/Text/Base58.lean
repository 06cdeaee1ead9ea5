/-! Bytes as base 58 text. The digits leave out the characters that look alike; each leading `1`
stands for a zero byte, and the digits after them write the remaining bytes as one number. -/

namespace BlockIndexer.Text.Base58

def alphabet : List Char := "123456789ABCDEFGHJKLMNPQRSTUVWXYZabcdefghijkmnopqrstuvwxyz".toList

def digit? (c : Char) : Option Nat := alphabet.idxOf? c

/-- The number that the digits write after `n`. -/
def number? : List Char → Nat → Option Nat
  | [], n => some n
  | c :: cs, n => (digit? c).bind fun d => number? cs (58 * n + d)

/-- The bytes of a number, most significant first; zero has none. -/
def bytesOfNat (n : Nat) : List UInt8 :=
  if n = 0 then [] else bytesOfNat (n / 256) ++ [(n % 256).toUInt8]

def decode? (cs : List Char) : Option (List UInt8) :=
  (number? (cs.dropWhile (· = '1')) 0).map fun n =>
    (cs.takeWhile (· = '1')).map (fun _ => 0) ++ bytesOfNat n

end BlockIndexer.Text.Base58
