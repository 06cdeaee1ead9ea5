/-! JSON documents as trees. The type of the texts in them is a parameter: in a document as it was
written a text may be unreadable, in a value every text is a string. Numbers keep the digits they
are written with, so none is rounded. -/

namespace BlockIndexer

/-- A run of decimal digits with at least one digit. -/
structure Json.Digits where
  first : Fin 10
  rest : List (Fin 10)
  deriving DecidableEq, Repr

/-- The part of a number after its `e`. -/
structure Json.Exponent where
  negative : Bool
  digits : Digits
  deriving DecidableEq, Repr

/-- A number as written, but for the spelling of its exponent: `1E5` and `1e+5` are one number,
`1.0` and `1` are two, and so are `-0` and `0`. -/
structure Json.Number where
  negative : Bool
  whole : Nat
  fraction : Option Digits
  exponent : Option Exponent
  deriving DecidableEq, Repr

inductive Json (text : Type) where
  | null
  | bool (b : Bool)
  | number (n : Json.Number)
  | string (s : text)
  | array (items : List (Json text))
  | object (members : List (text × Json text))
  deriving Repr

namespace Json

/-- A tree whose texts are all known. -/
abbrev Value := Json String

/-- A tree as written: `none` stands for a text that holds a lone surrogate or a stray byte. -/
abbrev Document := Json (Option String)

namespace Digits

def toList (ds : Digits) : List (Fin 10) := ds.first :: ds.rest

def chars (ds : Digits) : List Char := ds.toList.map fun d => Nat.digitChar d.val

def value (ds : Digits) : Nat := ds.toList.foldl (fun n d => 10 * n + d.val) 0

end Digits

namespace Number

def ofNat (n : Nat) : Number := ⟨false, n, none, none⟩

def ofInt (i : Int) : Number := ⟨i < 0, i.natAbs, none, none⟩

/-- The integer that a number without fraction and exponent writes. -/
def toInt? (n : Number) : Option Int :=
  match n.fraction, n.exponent with
  | none, none => some (if n.negative then -(n.whole : Int) else n.whole)
  | _, _ => none

/-- The integer of a number whose text is the usual one of that integer, so not `-0`. -/
def plainInt? (n : Number) : Option Int :=
  if n.negative ∧ n.whole = 0 then none else n.toInt?

end Number

def nat (n : Nat) : Value := .number (.ofNat n)

def int (i : Int) : Value := .number (.ofInt i)

def ofOption (write : α → Value) (a : Option α) : Value := a.elim .null write

end Json

end BlockIndexer
