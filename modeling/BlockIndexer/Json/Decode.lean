import BlockIndexer.Json.Canonical
import BlockIndexer.Record
import BlockIndexer.Text.Hex

/-! What documents say about fields of the usual kinds. Each reader answers `none` when the document
is of another kind or the value does not fit. -/

namespace BlockIndexer

/-- A run of exactly `n` bytes. -/
structure FixedBytes (n : Nat) where
  toList : List UInt8
  length_eq : toList.length = n
  deriving DecidableEq, Repr

namespace FixedBytes

def ofList? (bytes : List UInt8) : Option (FixedBytes n) :=
  if h : bytes.length = n then some ⟨bytes, h⟩ else none

def zero : FixedBytes n := ⟨List.replicate n 0, by simp⟩

def text (bytes : FixedBytes n) : String := Text.Hex.text bytes.toList

def toValue (bytes : FixedBytes n) : Json.Value := .string bytes.text

end FixedBytes

abbrev Hash := FixedBytes 32

abbrev Address := FixedBytes 20

namespace Json.Document

/-- The members of an object whose keys can all be read. -/
def namedMembers? : List (Option String × Document) → Option (List (String × Document))
  | [] => some []
  | (none, _) :: _ => none
  | (some k, d) :: ms => (namedMembers? ms).map ((k, d) :: ·)

/-- The fields of a record. Also a member that is passed over needs a readable name. -/
def fields? (shape : Shape) : Document → Option (Fields Document)
  | .object members => (namedMembers? members).bind shape.named?
  | .array items => shape.positional? items
  | _ => none

/-- An integer in its usual spelling. -/
def int? : Document → Option Int
  | .number n => n.plainInt?
  | _ => none

def nat? (bits : Nat) (d : Document) : Option Nat :=
  (d.int?.bind Int.toNat?).filter (FitsIn bits ·)

def uint8? (d : Document) : Option UInt8 := (d.nat? 8).map UInt8.ofNat

def uint32? (d : Document) : Option UInt32 := (d.nat? 32).map UInt32.ofNat

def uint64? (d : Document) : Option UInt64 := (d.nat? 64).map UInt64.ofNat

def int64? (d : Document) : Option Int64 :=
  d.int?.bind fun i =>
    if Int64.minValue.toInt ≤ i ∧ i ≤ Int64.maxValue.toInt then some (Int64.ofInt i) else none

def string? : Document → Option String
  | .string s => s
  | _ => none

def bool? : Document → Option Bool
  | .bool b => some b
  | _ => none

def array? (read : Document → Option α) : Document → Option (List α)
  | .array items => items.mapM read
  | _ => none

/-- Bytes as hexadecimal text or as a list of numbers. -/
def bytes? : Document → Option (List UInt8)
  | .string s => s.bind fun s => Text.Hex.decode? s.toList
  | .array items => items.mapM uint8?
  | _ => none

/-- So many bytes, as hexadecimal text or as a list of numbers. One more item may follow in the
list, as long as it is no byte. -/
def fixedBytes? : Document → Option (FixedBytes n)
  | .array items =>
    if (items.drop n).length ≤ 1 && (items.drop n).all (fun d => (uint8? d).isNone) then
      ((items.take n).mapM uint8?).bind FixedBytes.ofList?
    else none
  | d => d.bytes?.bind FixedBytes.ofList?

def nullable? (read : Document → Option α) : Document → Option (Option α)
  | .null => some none
  | d => (read d).map some

end Json.Document

end BlockIndexer
