import BlockIndexer.Text.Numeral

/-! The characters of YAML text by what they do: spaces, line breaks, the characters of names, and
those that may not stand anywhere. -/

namespace BlockIndexer.Yaml

def isSpace (c : Char) : Bool := c = ' ' || c = '\t'

def isBreak (c : Char) : Bool :=
  c = '\n' || c = '\r' || c = '\u0085' || c = '\u2028' || c = '\u2029'

/-- What a line break is inside a scalar: the breaks that text files have are all one character,
the separators of lines and paragraphs stay as they are. -/
def keptBreak (c : Char) : Char := if c = '\u2028' || c = '\u2029' then c else '\n'

def isAllowed (c : Char) : Bool :=
  c = '\t' || c = '\n' || c = '\r' || (0x20 ≤ c.toNat && c.toNat ≤ 0x7E) || c.toNat = 0x85 ||
    (0xA0 ≤ c.toNat && c.toNat ≤ 0xFFFD) || 0x10000 ≤ c.toNat

def isWord (c : Char) : Bool := c.isAlphanum || c = '_' || c = '-'

/-- Whether a word ends before this text. -/
def startsBlank : List Char → Bool
  | [] => true
  | c :: _ => isSpace c || isBreak c

/-- Whether the text starts with three such marks and nothing right behind them. -/
def startsMarks (mark : Char) : List Char → Bool
  | a :: b :: c :: rest => a = mark && b = mark && c = mark && startsBlank rest
  | _ => false

/-- Whether the text, at the start of a line, starts or ends a document. -/
def startsMarker (cs : List Char) : Bool := startsMarks '-' cs || startsMarks '.' cs

/-- The text after one line break, if there is one. -/
def dropBreak : List Char → List Char
  | '\r' :: '\n' :: cs => cs
  | c :: cs => if isBreak c then cs else c :: cs
  | [] => []

/-- The text after the rest of a line that holds no more than a comment. -/
def dropLine? (cs : List Char) : Option (List Char) :=
  match cs.dropWhile isSpace with
  | '#' :: cs => some (dropBreak (cs.dropWhile (!isBreak ·)))
  | cs => if cs.head?.all isBreak then some (dropBreak cs) else none

def hexDigit? (c : Char) : Option Nat := Text.digitBelow? 16 c

end BlockIndexer.Yaml
