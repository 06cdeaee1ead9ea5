import BlockIndexer.Record

/-! Layouts say where a document that is read for a purpose holds runs of bytes whose length is
known beforehand. They matter to the reader, because such a run ends by its length. -/

namespace BlockIndexer.Json

/-- What is known of a value before it is read. -/
inductive Layout where
  | free
  /-- An array is a run of so many bytes. -/
  | bytes (length : Nat)
  /-- An array has items of one layout. -/
  | list (item : Layout)
  /-- A record has members of these layouts, and others that are free. -/
  | record (shape : Shape) (members : List (String × Layout))
  deriving Repr

/-- What is known of the items that an array still holds. -/
inductive Items where
  | each (item : Layout)
  | inTurn (items : List Layout)
  | bytes (left : Nat)
  deriving Repr

namespace Items

def next : Items → Layout
  | .each item => item
  | .inTurn (item :: _) => item
  | .inTurn [] | .bytes _ => .free

/-- What is known of the items after the next one. -/
def afterNext : Items → Items
  | .each item => .each item
  | .inTurn items => .inTurn items.tail
  | .bytes left => .bytes (left - 1)

end Items

namespace Layout

def named (members : List (String × Layout)) (name : String) : Layout :=
  (members.lookup name).getD .free

/-- What is known of the items of an array with this layout. -/
def items : Layout → Items
  | .free => .each .free
  | .bytes length => .bytes length
  | .list item => .each item
  | .record shape members => .inTurn (shape.members.map fun m => named members m.name)

/-- The layout of the value under a key of an object with this layout. -/
def member : Layout → Option String → Layout
  | .record shape members, some key => (shape.name? key).elim .free (named members)
  | _, _ => .free

end Layout

end BlockIndexer.Json
