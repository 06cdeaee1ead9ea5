import BlockIndexer.Text.Symbol

/-! YAML documents as trees. A scalar keeps how it was written, because only a plain one can be a
number, a truth value or nothing. A node may be named and referred to from other places, also from
inside of it, so a document is a tree with the nodes that have names beside it. -/

namespace BlockIndexer

namespace Yaml

inductive Style where
  | plain
  | singleQuoted
  | doubleQuoted
  | literal
  | folded
  deriving DecidableEq, Repr

/-- The text of a tag. Its escapes may spell what is no text. -/
abbrev Tag := List Text.Symbol

/-- One of the usual tags, by its name. -/
def usualTag (name : String) : Tag := Text.Symbol.ofString ("tag:yaml.org,2002:" ++ name)

structure Scalar where
  text : String
  style : Style
  tag : Option Tag
  deriving DecidableEq, Repr

end Yaml

inductive Yaml where
  | scalar (s : Yaml.Scalar)
  /-- The node with this number stands here too. -/
  | reference (number : Nat)
  | sequence (items : List Yaml)
  | mapping (entries : List (Yaml × Yaml))
  deriving Repr

namespace Yaml

/-- What stands where nothing is written. -/
def nothing : Yaml := .scalar ⟨"", .plain, none⟩

structure Document where
  root : Yaml
  /-- The nodes that have names, by their numbers. -/
  named : List (Nat × Yaml)
  deriving Repr

def Document.empty : Document := ⟨nothing, []⟩

/-- The node itself, or the one that a reference stands for. -/
def Document.resolve (d : Document) : Yaml → Yaml
  | .reference number => (d.named.lookup number).getD nothing
  | node => node

end Yaml

end BlockIndexer
