import BlockIndexer.Yaml.BlockScalar
import BlockIndexer.Yaml.Scalar
import BlockIndexer.Yaml.Tag

/-! The place in a YAML text up to which its tokens are known. Indentation opens and closes block
collections. A key has no mark before it: where one may have started is remembered, and the mark of
its value, on the same line and not too far behind, makes it a key after all. -/

namespace BlockIndexer.Yaml

structure Position where
  offset : Nat
  line : Nat
  column : Nat
  deriving DecidableEq, Repr

namespace Position

def past (p : Position) (c : Char) : Position := ⟨p.offset + c.utf8Size, p.line, p.column + 1⟩

def newLine (p : Position) (bytes : Nat) : Position := ⟨p.offset + bytes, p.line + 1, 0⟩

def after (p : Position) : List Char → Position
  | [] => p
  | '\r' :: '\n' :: cs => (p.newLine 2).after cs
  | c :: cs => if isBreak c then (p.newLine c.utf8Size).after cs else (p.past c).after cs

end Position

/-- A place at which a key may have started. -/
structure PossibleKey where
  position : Position
  /-- The number of tokens before it. -/
  token : Nat
  /-- Whether nothing else may stand there. -/
  required : Bool
  deriving DecidableEq, Repr

structure Cursor where
  rest : List Char
  position : Position
  /-- The tokens that are known, the last one first. -/
  tokens : List Token
  /-- The number of tokens that are known. -/
  count : Nat
  /-- The columns of the open block collections, innermost first. -/
  indents : List Nat
  /-- The possible key of the innermost flow collection, or outside of all. -/
  key : Option PossibleKey
  /-- The possible keys of the collections around it. -/
  outerKeys : List (Option PossibleKey)
  /-- Whether a key may start here. -/
  keyAllowed : Bool
  deriving Repr

namespace Cursor

def ofText (cs : List Char) : Cursor := ⟨cs, ⟨0, 0, 0⟩, [], 0, [], none, [], true⟩

def inFlow (c : Cursor) : Bool := !c.outerKeys.isEmpty

/-- The first column to the right of the innermost block collection. -/
def inside (c : Cursor) : Nat := c.indents.head?.elim 0 (· + 1)

def skip (c : Cursor) (n : Nat) : Cursor :=
  { c with rest := c.rest.drop n, position := c.position.after (c.rest.take n) }

/-- The cursor after the text up to `rest`, which is the end of the text before it. -/
def moveTo (c : Cursor) (rest : List Char) : Cursor :=
  { c with rest, position := c.position.after (c.rest.take (c.rest.length - rest.length)) }

def push (c : Cursor) (token : Token) : Cursor :=
  { c with tokens := token :: c.tokens, count := c.count + 1 }

/-- Puts a token behind so many others. -/
def insert (c : Cursor) (index : Nat) (token : Token) : Cursor :=
  let later := c.count - index
  { c with tokens := c.tokens.take later ++ token :: c.tokens.drop later, count := c.count + 1 }

def takeMark (c : Cursor) (token : Token) : Cursor := (c.skip 1).push token

/-- Ends the block collections whose columns lie to the right. -/
def closeBlocks (toRight : Nat → Bool) (c : Cursor) : Cursor :=
  if c.inFlow then c
  else
    let ended := c.indents.takeWhile toRight
    { c with
      tokens := List.replicate ended.length .blockEnd ++ c.tokens
      count := c.count + ended.length
      indents := c.indents.drop ended.length }

/-- Starts a block collection, after so many tokens, if its column lies to the right. -/
def openBlock (column index : Nat) (token : Token) (c : Cursor) : Cursor :=
  if !c.inFlow && c.indents.head?.all (· < column) then
    { c.insert index token with indents := column :: c.indents }
  else c

def openBlockHere (token : Token) (c : Cursor) : Cursor :=
  c.openBlock c.position.column c.count token

def dropKey? (c : Cursor) : Option Cursor :=
  if c.key.any (·.required) then none else some { c with key := none }

/-- Remembers that a key may start here, if it may. -/
def startKey? (c : Cursor) : Option Cursor :=
  if c.keyAllowed then
    let key : PossibleKey := ⟨c.position, c.count,
      !c.inFlow && c.indents.head? = some c.position.column⟩
    c.dropKey?.map fun c => { c with key := some key }
  else some c

/-- The possible key, if a value may follow it here: on its line, after at most 1024 bytes. -/
def currentKey? (c : Cursor) : Option PossibleKey :=
  c.key.filter fun k =>
    k.position.line = c.position.line && c.position.offset ≤ k.position.offset + 1024

/-- Passes over what separates tokens: spaces, comments, line breaks, and a byte order mark at the
start of a line, which is a character of that line. A tab counts as a space where no key may start.
Outside of flow collections a line break lets a key start. -/
def skipBlank (inFlow keyAllowed inComment : Bool) (p : Position) :
    List Char → List Char × Position × Bool
  | [] => ([], p, keyAllowed)
  | '\r' :: '\n' :: cs => skipBlank inFlow (keyAllowed || !inFlow) false (p.newLine 2) cs
  | c :: cs =>
    if isBreak c then skipBlank inFlow (keyAllowed || !inFlow) false (p.newLine c.utf8Size) cs
    else if inComment || c = '#' then skipBlank inFlow keyAllowed true (p.past c) cs
    else if c = ' ' || (c = '\t' && (inFlow || !keyAllowed)) ||
        (c = '\ufeff' && p.column = 0) then
      skipBlank inFlow keyAllowed false (p.past c) cs
    else (c :: cs, p, keyAllowed)

/-- The cursor at the start of the next token. -/
def toToken (c : Cursor) : Cursor :=
  let (rest, position, keyAllowed) := skipBlank c.inFlow c.keyAllowed false c.position c.rest
  { c with rest, position, keyAllowed }.closeBlocks (position.column < ·)

/-- Ends all block collections before a mark of the document itself. -/
def leaveBlocks? (c : Cursor) : Option Cursor :=
  (c.closeBlocks fun _ => true).dropKey?.map fun c => { c with keyAllowed := false }

def takeDirective? (c : Cursor) : Option Cursor :=
  (directive? c.rest.tail).bind fun (token, rest) =>
    c.leaveBlocks?.map fun c => (c.moveTo rest).push token

def takeMarker? (c : Cursor) (token : Token) : Option Cursor :=
  c.leaveBlocks?.map fun c => (c.skip 3).push token

def takeFlowStart? (c : Cursor) (token : Token) : Option Cursor :=
  c.startKey?.map fun c =>
    { c.takeMark token with key := none, outerKeys := c.key :: c.outerKeys, keyAllowed := true }

def takeFlowEnd? (c : Cursor) (token : Token) : Option Cursor :=
  c.dropKey?.map fun c =>
    { c.takeMark token with
      key := c.outerKeys.head?.getD none, outerKeys := c.outerKeys.tail, keyAllowed := false }

def takeComma? (c : Cursor) : Option Cursor :=
  c.dropKey?.map fun c => { c.takeMark .comma with keyAllowed := true }

def takeItem? (c : Cursor) : Option Cursor :=
  if c.inFlow || c.keyAllowed then
    (c.openBlockHere .blockSequence).dropKey?.map fun c =>
      { c.takeMark .item with keyAllowed := true }
  else none

def takeKey? (c : Cursor) : Option Cursor :=
  if c.inFlow || c.keyAllowed then
    (c.openBlockHere .blockMapping).dropKey?.map fun c =>
      { c.takeMark .key with keyAllowed := !c.inFlow }
  else none

/-- The mark of a value makes a key of what may have been one. -/
def takeValue? (c : Cursor) : Option Cursor :=
  match c.currentKey? with
  | some k =>
    let c := (c.insert k.token .key).openBlock k.position.column k.token .blockMapping
    some { c.takeMark .value with key := none, keyAllowed := false }
  | none =>
    if c.key.any (·.required) || !(c.inFlow || c.keyAllowed) then none
    else
      let c := c.openBlockHere .blockMapping
      some { c.takeMark .value with key := none, keyAllowed := !c.inFlow }

/-- A token up to `rest` that may be a key, or the start of one. -/
def takeNode? (c : Cursor) (token : Token) (rest : List Char) : Option Cursor :=
  c.startKey?.map fun c => { (c.moveTo rest).push token with keyAllowed := false }

def takeQuoted? (c : Cursor) (style : Style) (read : Option (List Char × List Char)) :
    Option Cursor :=
  read.bind fun (text, rest) => c.takeNode? (.scalar (String.ofList text) style) rest

def takePlain? (c : Cursor) : Option Cursor :=
  (plain? c.inFlow c.inside [] .none c.rest).bind fun plain =>
    (c.takeNode? (.scalar (String.ofList plain.text) .plain) plain.rest).map fun c =>
      { c with keyAllowed := plain.endsLine }

def takeBlockScalar? (c : Cursor) (style : Style) : Option Cursor :=
  (BlockScalar.read? (style = .folded) c.indents.head? c.rest.tail).bind fun (text, rest) =>
    c.dropKey?.map fun c => { (c.moveTo rest).push (.scalar text style) with keyAllowed := true }

/-- The cursor after the token that starts here. -/
def next? (c : Cursor) : Option Cursor :=
  let startsLine := c.position.column = 0
  match c.rest with
  | [] => none
  | mark :: rest =>
    let endsWord := c.inFlow || startsBlank rest
    if startsLine && mark = '%' then c.takeDirective?
    else if startsLine && startsMarks '-' c.rest then c.takeMarker? .documentStart
    else if startsLine && startsMarks '.' c.rest then c.takeMarker? .documentEnd
    else if mark = '[' then c.takeFlowStart? .flowSequence
    else if mark = '\x7b' then c.takeFlowStart? .flowMapping
    else if mark = ']' then c.takeFlowEnd? .flowSequenceEnd
    else if mark = '\x7d' then c.takeFlowEnd? .flowMappingEnd
    else if mark = ',' then c.takeComma?
    else if mark = '-' && startsBlank rest then c.takeItem?
    else if mark = '?' && endsWord then c.takeKey?
    else if mark = ':' && endsWord then c.takeValue?
    else if mark = '*' then
      (name? rest).bind fun (name, rest) => c.takeNode? (.reference name) rest
    else if mark = '&' then (name? rest).bind fun (name, rest) => c.takeNode? (.anchor name) rest
    else if mark = '!' then
      (tag? c.inFlow c.rest).bind fun (token, rest) => c.takeNode? token rest
    else if mark = '|' && !c.inFlow then c.takeBlockScalar? .literal
    else if mark = '>' && !c.inFlow then c.takeBlockScalar? .folded
    else if mark = '\'' then c.takeQuoted? .singleQuoted (singleQuoted? [] .none rest)
    else if mark = '"' then c.takeQuoted? .doubleQuoted (doubleQuoted? [] .none rest)
    else if startsPlain c.inFlow c.rest then c.takePlain?
    else none

/-- All tokens of the text, when there are no more. -/
def end? (c : Cursor) : Option (List Token) :=
  c.leaveBlocks?.map fun c => (c.push .textEnd).tokens.reverse

/-- The tokens of the text, at most so many of them from here on. -/
def tokensWithin? : Nat → Cursor → Option (List Token)
  | 0, _ => none
  | n + 1, c =>
    let c := c.toToken
    if c.rest.isEmpty then c.end? else c.next?.bind (tokensWithin? n)

/-- All tokens of the text. Each takes at least one character, but for those that stand for
indentation. -/
def tokens? (c : Cursor) : Option (List Token) := c.tokensWithin? (c.rest.length + 1)

end Cursor

end BlockIndexer.Yaml
