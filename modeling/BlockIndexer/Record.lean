/-! Records as documents write them: members under their names or other spellings in any order, or
their values alone in the order of the members. Unknown members are passed over, and a member that
is given twice makes the record unreadable. -/

namespace BlockIndexer

/-- A member's name and the spellings that stand for it. -/
structure Member where
  name : String
  aliases : List String
  deriving DecidableEq, Repr

/-- The members of a record in order. The first `leading` of them must be there when the values
stand alone. -/
structure Shape where
  members : List Member
  leading : Nat
  deriving DecidableEq, Repr

def Member.accepts (m : Member) (spelling : String) : Bool :=
  spelling == m.name || m.aliases.contains spelling

/-- What a record gives for its members, each at most once. -/
abbrev Fields (α : Type) := List (String × α)

namespace Shape

def ofNames (names : List String) (leading : Nat) : Shape := ⟨names.map (⟨·, []⟩), leading⟩

/-- The name of the member that a spelling stands for. -/
def name? (shape : Shape) (spelling : String) : Option String :=
  (shape.members.find? (·.accepts spelling)).map (·.name)

/-- The fields of a record with named members. -/
def named? (shape : Shape) : List (String × α) → Option (Fields α)
  | [] => some []
  | (k, a) :: ms =>
    (named? shape ms).bind fun fields =>
      match shape.name? k with
      | none => some fields
      | some name => if (fields.lookup name).isSome then none else some ((name, a) :: fields)

/-- The fields of a record whose values stand alone. -/
def positional? (shape : Shape) (items : List α) : Option (Fields α) :=
  if shape.leading ≤ items.length ∧ items.length ≤ shape.members.length then
    some ((shape.members.map (·.name)).zip items)
  else none

end Shape

namespace Fields

variable {α β : Type}

def required? (fields : Fields α) (name : String) (read : α → Option β) : Option β :=
  (fields.lookup name).bind read

def orElse? (fields : Fields α) (name : String) (default : β) (read : α → Option β) : Option β :=
  match fields.lookup name with
  | none => some default
  | some a => read a

end Fields

end BlockIndexer
