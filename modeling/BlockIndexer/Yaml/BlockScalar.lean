import BlockIndexer.Yaml.Character

/-! Block scalars: the text is the lines below the mark that stand deep enough. A literal one keeps
its line breaks; a folded one has a space for a break between two lines that start without a
space. -/

namespace BlockIndexer.Yaml.BlockScalar

/-- What becomes of the line breaks at the end. -/
inductive Chomping where
  | clip
  | strip
  | keep
  deriving DecidableEq, Repr

/-- What stands behind the mark. -/
structure Header where
  chomping : Chomping
  /-- How much deeper than what is around it the text stands, if this is said. -/
  increment : Option Nat
  deriving DecidableEq, Repr

def chomping? : Char → Option Chomping
  | '+' => some .keep
  | '-' => some .strip
  | _ => none

/-- The digit of an increment. No increment is zero. -/
def increment? (c : Char) : Option Nat :=
  if c.isDigit && c ≠ '0' then some (c.toNat - '0'.toNat) else none

/-- The signs behind the mark, in either order, and what follows them. -/
def header : List Char → Header × List Char
  | [] => (⟨.clip, none⟩, [])
  | c :: cs =>
    match chomping? c, increment? c with
    | some chomping, _ =>
      match cs with
      | d :: rest =>
        match increment? d with
        | some n => (⟨chomping, some n⟩, rest)
        | none => (⟨chomping, none⟩, cs)
      | [] => (⟨chomping, none⟩, [])
    | none, some n =>
      match cs with
      | d :: rest => (⟨(chomping? d).getD .clip, some n⟩, if (chomping? d).isSome then rest else cs)
      | [] => (⟨.clip, some n⟩, [])
    | none, none => (⟨.clip, none⟩, c :: cs)

/-- The blank lines before the text. -/
structure Lead where
  /-- The deepest column that one of the lines reaches, that of the text included. -/
  deepest : Nat
  /-- The column of the text. -/
  column : Nat
  /-- The line breaks, the last one first. -/
  breaks : List Char
  rest : List Char
  deriving DecidableEq, Repr

/-- The blank lines that go on here at a column. No tab may stand in the indentation. -/
def lead? (deepest column : Nat) (breaks : List Char) : List Char → Option Lead
  | [] => some ⟨max deepest column, column, breaks, []⟩
  | '\r' :: '\n' :: cs => lead? (max deepest column) 0 ('\n' :: breaks) cs
  | c :: cs =>
    if c = ' ' then lead? deepest (column + 1) breaks cs
    else if c = '\t' then none
    else if isBreak c then lead? (max deepest column) 0 (keptBreak c :: breaks) cs
    else some ⟨max deepest column, column, breaks, c :: cs⟩

/-- What is read of the text; all lists hold the last character first. -/
structure Reading where
  before : List Char
  /-- The break at the end of the last line. -/
  lineBreak : List Char
  /-- The breaks of blank lines after it. -/
  blanks : List Char
  /-- Whether the last line starts with a space. -/
  spaced : Bool
  deriving DecidableEq, Repr

namespace Reading

def none : Reading := ⟨[], [], [], false⟩

/-- The breaks between the last line and one that starts with a character. -/
def startLine (folded : Bool) (r : Reading) (c : Char) : Reading :=
  let joint :=
    if folded && r.lineBreak = ['\n'] && !r.spaced && !isSpace c then
      if r.blanks.isEmpty then [' '] else r.blanks
    else r.blanks ++ r.lineBreak
  ⟨c :: joint ++ r.before, [], [], isSpace c⟩

/-- The text with as much of the breaks at its end as is kept. -/
def text (chomping : Chomping) (r : Reading) : String :=
  String.ofList <| List.reverse <|
    match chomping with
    | .strip => r.before
    | .clip => r.lineBreak ++ r.before
    | .keep => r.blanks ++ r.lineBreak ++ r.before

end Reading

/-- The lines that go on here at a column, or inside a line if there is none, and what follows the
last line that stands at `indent`. No tab may stand to the left of it. -/
def lines? (folded : Bool) (indent : Nat) (column : Option Nat) (r : Reading) :
    List Char → Option (Reading × List Char)
  | [] => some (r, [])
  | '\r' :: '\n' :: cs =>
    match column with
    | none => lines? folded indent (some 0) { r with lineBreak := ['\n'] } cs
    | some _ => lines? folded indent (some 0) { r with blanks := '\n' :: r.blanks } cs
  | c :: cs =>
    match column with
    | none =>
      if isBreak c then lines? folded indent (some 0) { r with lineBreak := [keptBreak c] } cs
      else lines? folded indent none { r with before := c :: r.before } cs
    | some column =>
      if column < indent && c = ' ' then lines? folded indent (some (column + 1)) r cs
      else if column < indent && c = '\t' then none
      else if isBreak c then
        lines? folded indent (some 0) { r with blanks := keptBreak c :: r.blanks } cs
      else if column = indent then lines? folded indent none (r.startLine folded c) cs
      else some (r, c :: cs)

/-- The text of the scalar whose mark has been read, and what follows it. What is around it has its
own column, unless it is the document itself. -/
def read? (folded : Bool) (around : Option Nat) (cs : List Char) :
    Option (String × List Char) :=
  let (header, cs) := header cs
  (dropLine? cs).bind fun cs =>
    let lines :=
      match header.increment with
      | some n => lines? folded (around.getD 0 + n) (some 0) .none cs
      | none =>
        (lead? 0 0 [] cs).bind fun lead =>
          let indent := max lead.deepest (max (around.elim 0 (· + 1)) 1)
          lines? folded indent (some lead.column) { Reading.none with blanks := lead.breaks }
            lead.rest
    lines.map fun (r, rest) => (r.text header.chomping, rest)

end BlockIndexer.Yaml.BlockScalar
