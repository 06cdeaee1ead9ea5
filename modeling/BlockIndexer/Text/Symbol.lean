/-! Text as it arrives in bytes. Bytes that spell a character in UTF-8 become that character, any
other byte becomes a stray symbol, so that a reader can pass over text it does not keep. -/

namespace BlockIndexer.Text

/-- A character, or a byte that is part of no character. -/
inductive Symbol where
  | char (c : Char)
  | stray
  deriving DecidableEq, Repr

namespace Symbol

def ofString (s : String) : List Symbol := s.toList.map .char

/-- The low six bits of a byte that continues a character. -/
def continuation? (b : UInt8) : Option Nat :=
  if 0x80 ≤ b ∧ b < 0xC0 then some (b.toNat - 0x80) else none

/-- The character of a code point spelled with no more bytes than it needs, that is, not below
`least`. -/
def character? (least n : Nat) : Option Char :=
  if h : least ≤ n ∧ n.isValidChar then some (Char.ofNatAux n h.2) else none

def ofTwo? (a b : UInt8) : Option Char :=
  if 0xC0 ≤ a ∧ a < 0xE0 then
    (continuation? b).bind fun y => character? 0x80 ((a.toNat - 0xC0) * 64 + y)
  else none

def ofThree? (a b c : UInt8) : Option Char :=
  if 0xE0 ≤ a ∧ a < 0xF0 then
    (continuation? b).bind fun y => (continuation? c).bind fun z =>
      character? 0x800 (((a.toNat - 0xE0) * 64 + y) * 64 + z)
  else none

def ofFour? (a b c d : UInt8) : Option Char :=
  if 0xF0 ≤ a ∧ a < 0xF8 then
    (continuation? b).bind fun y => (continuation? c).bind fun z => (continuation? d).bind fun w =>
      character? 0x10000 ((((a.toNat - 0xF0) * 64 + y) * 64 + z) * 64 + w)
  else none

/-- The symbol that `a` and the bytes after it start with, and the bytes after that symbol. -/
def next (a : UInt8) : List UInt8 → Symbol × List UInt8
  | [] => (if a < 0x80 then .char (Char.ofNat a.toNat) else .stray, [])
  | b :: rest =>
    if a < 0x80 then (.char (Char.ofNat a.toNat), b :: rest)
    else match ofTwo? a b, rest with
      | some x, rest => (.char x, rest)
      | none, [] => (.stray, [b])
      | none, c :: rest =>
        match ofThree? a b c, rest with
        | some x, rest => (.char x, rest)
        | none, [] => (.stray, [b, c])
        | none, d :: rest =>
          match ofFour? a b c d with
          | some x => (.char x, rest)
          | none => (.stray, b :: c :: d :: rest)

theorem length_next_le (a : UInt8) (rest : List UInt8) : (next a rest).2.length ≤ rest.length := by
  unfold next
  repeat' split
  all_goals simp only [List.length_cons, List.length_nil]
  all_goals omega

/-- The symbols of a run of bytes, after those in `before`, which holds the last one first. -/
def scan (before : List Symbol) : List UInt8 → List Symbol
  | [] => before.reverse
  | a :: rest => scan ((next a rest).1 :: before) (next a rest).2
termination_by bytes => bytes.length
decreasing_by exact Nat.lt_succ_of_le (length_next_le a rest)

def ofBytes (bytes : List UInt8) : List Symbol := scan [] bytes

def char? : Symbol → Option Char
  | .char c => some c
  | .stray => none

/-- The text that bytes spell, if all of them do. -/
def text? (bytes : List UInt8) : Option String :=
  ((ofBytes bytes).mapM char?).map String.ofList

end Symbol

def utf8 (s : String) : List UInt8 := s.toUTF8.toList

end BlockIndexer.Text
