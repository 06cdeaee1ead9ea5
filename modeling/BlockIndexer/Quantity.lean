import BlockIndexer.Error
import BlockIndexer.Json.Canonical
import BlockIndexer.Text.Blank
import BlockIndexer.Text.Numeral

/-! Quantities are numeric literals of any width that keep the text they arrived in. Rendering one
gives the decimal text of its value, which is below `2^256`; a policy says what becomes of a
literal without a value. -/

namespace BlockIndexer

/-- What becomes of a literal that writes no number: zero, or an error. -/
inductive NumericPolicy where
  | lenient
  | strict
  deriving DecidableEq, Repr

def NumericPolicy.name : NumericPolicy → String
  | .lenient => "lenient"
  | .strict => "strict"

def NumericPolicy.ofName? : String → Option NumericPolicy
  | "lenient" => some .lenient
  | "strict" => some .strict
  | _ => none

structure Quantity where
  literal : String
  deriving DecidableEq, Repr

namespace Quantity

def ofNat (n : Nat) : Quantity := ⟨n.repr⟩

def absent : Quantity := ⟨""⟩

/-- The number that the literal writes, blanks around it apart. -/
def value? (q : Quantity) : Option Nat := Text.word? 256 (Text.trim q.literal.toList)

def decimal? (q : Quantity) : Option String := q.value?.map Nat.repr

/-- The decimal text of the quantity of a field. -/
def render (policy : NumericPolicy) (field : String) (q : Quantity) : Except Error String :=
  match q.decimal?, policy with
  | some text, _ => .ok text
  | none, .lenient => .ok "0"
  | none, .strict => .error (.numeric field q.literal)

/-- Texts and numbers are taken as they stand, null is an absent literal, and any other value
becomes a literal that writes no number. -/
def ofValue : Json.Value → Quantity
  | .string s => ⟨s⟩
  | .number n => ⟨n.text⟩
  | .null => absent
  | v => ⟨v.text⟩

def ofDocument? (levels : Nat) (d : Json.Document) : Option Quantity :=
  (d.value? levels).map ofValue

def toValue (q : Quantity) : Json.Value := .string q.literal

end Quantity

end BlockIndexer
