import BlockIndexer.Yaml.Character

/-! Line folding. The lines of a plain or quoted scalar are one text: the spaces at the ends of the
lines go, one line break is a space, and with more of them the first one goes. -/

namespace BlockIndexer.Yaml

/-- The spaces and line breaks between two parts of a scalar. -/
structure Gap where
  spaces : List Char
  /-- The line breaks as they are kept, the last one first. -/
  breaks : List Char
  /-- Whether the gap starts with a line break that is taken back. -/
  joined : Bool
  column : Nat
  deriving DecidableEq, Repr

namespace Gap

def none : Gap := ⟨[], [], false, 0⟩

/-- The gap that a line break after a backslash starts. -/
def join : Gap := ⟨[], [], true, 0⟩

/-- Whether the gap reaches over the end of a line. -/
def isFolded (g : Gap) : Bool := g.joined || !g.breaks.isEmpty

def isNone (g : Gap) : Bool := g.spaces.isEmpty && !g.isFolded

/-- Whether what follows the gap stands at the start of a line. -/
def startsLine (g : Gap) : Bool := g.isFolded && g.column = 0

def space (g : Gap) (c : Char) : Gap :=
  if g.isFolded then { g with column := g.column + 1 } else { g with spaces := c :: g.spaces }

def lineBreak (g : Gap) (c : Char) : Gap :=
  { g with spaces := [], breaks := keptBreak c :: g.breaks, column := 0 }

/-- What the gap leaves in the text, the last character first. -/
def text (g : Gap) : List Char :=
  if g.joined then g.breaks
  else match g.breaks.reverse with
    | [] => g.spaces
    | ['\n'] => [' ']
    | '\n' :: more => more.reverse
    | all => all.reverse

end Gap

end BlockIndexer.Yaml
