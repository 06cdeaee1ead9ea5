import BlockIndexer.Feed.Delivery

/-! A log kept as a file of lines. Line `N` carries sequence `N`, counted from 1 over all lines; a
blank line keeps its number but is not delivered. -/

namespace BlockIndexer.Feed

def newline : UInt8 := 10

/-- Space, tab, line feed, form feed or carriage return. -/
def isBlankByte (b : UInt8) : Bool := b == 32 || b == 9 || b == 10 || b == 12 || b == 13

def isBlankLine (line : List UInt8) : Bool := line.all isBlankByte

/-- The complete lines, each with its newline, and the bytes after the last of them; `before` holds
what is read of the first line, the last byte first. -/
def splitLines (before : List UInt8) : List UInt8 → List (List UInt8) × List UInt8
  | [] => ([], before.reverse)
  | b :: bytes =>
    if b = newline then
      let (lines, tail) := splitLines [] bytes
      ((b :: before).reverse :: lines, tail)
    else splitLines (b :: before) bytes

def completeLines (bytes : List UInt8) : List (List UInt8) := (splitLines [] bytes).1

/-- The bytes after the last newline. -/
def unfinishedLine (bytes : List UInt8) : List UInt8 := (splitLines [] bytes).2

/-- All lines of a text, the last one with or without a newline. -/
def lines (bytes : List UInt8) : List (List UInt8) :=
  if (unfinishedLine bytes).isEmpty then completeLines bytes
  else completeLines bytes ++ [unfinishedLine bytes]

/-- Lines as deliveries, the first under the given number. -/
def number (first : Nat) : List (List UInt8) → List Delivery
  | [] => []
  | line :: rest => ⟨first, line⟩ :: number (first + 1) rest

def isDelivered (start : Nat) (d : Delivery) : Bool :=
  start ≤ d.sequence && !isBlankLine d.payload

/-- What a file delivers to a subscriber that stops at its end. -/
def deliveries (start : Nat) (bytes : List UInt8) : List Delivery :=
  (number 1 (lines bytes)).filter (isDelivered start)

end BlockIndexer.Feed
