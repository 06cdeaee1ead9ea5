import BlockIndexer.Yaml.Folding

/-! Scalars that may go on over several lines: plain ones, ones between single quotes, where a quote
is written twice, and ones between double quotes, where a backslash starts an escape. -/

namespace BlockIndexer.Yaml

/-- The text up to the closing single quote, and what follows that quote. The text after `before`
and the gap is still to be read; `before` holds the last character first. -/
def singleQuoted? (before : List Char) (gap : Gap) : List Char → Option (List Char × List Char)
  | [] => none
  | '\r' :: '\n' :: rest => singleQuoted? before (gap.lineBreak '\n') rest
  | c :: rest =>
    if isBreak c then singleQuoted? before (gap.lineBreak c) rest
    else if isSpace c then singleQuoted? before (gap.space c) rest
    else if gap.startsLine && startsMarker (c :: rest) then none
    else if c = '\'' then
      match rest with
      | '\'' :: rest => singleQuoted? ('\'' :: gap.text ++ before) .none rest
      | rest => some ((gap.text ++ before).reverse, rest)
    else singleQuoted? (c :: gap.text ++ before) .none rest

/-- The character that a letter stands for after a backslash. -/
def unescape? : Char → Option Char
  | '0' => some '\x00'
  | 'a' => some '\x07'
  | 'b' => some '\x08'
  | 't' => some '\t'
  | '\t' => some '\t'
  | 'n' => some '\n'
  | 'v' => some '\x0b'
  | 'f' => some '\x0c'
  | 'r' => some '\r'
  | 'e' => some '\x1b'
  | ' ' => some ' '
  | '"' => some '"'
  | '/' => some '/'
  | '\\' => some '\\'
  | 'N' => some '\u0085'
  | '_' => some '\u00a0'
  | 'L' => some '\u2028'
  | 'P' => some '\u2029'
  | _ => none

/-- The character with a code point given by hexadecimal digits. -/
def characterOf? (digits : List Char) : Option Char :=
  (digits.mapM hexDigit?).bind fun ds =>
    let n := ds.foldl (fun n d => 16 * n + d) 0
    if n.isValidChar then some (Char.ofNat n) else none

/-- The text up to the closing double quote, and what follows that quote, after `before` and the
gap. -/
def doubleQuoted? (before : List Char) (gap : Gap) : List Char → Option (List Char × List Char)
  | [] => none
  | '\r' :: '\n' :: rest => doubleQuoted? before (gap.lineBreak '\n') rest
  | c :: rest =>
    if isBreak c then doubleQuoted? before (gap.lineBreak c) rest
    else if isSpace c then doubleQuoted? before (gap.space c) rest
    else if gap.startsLine && startsMarker (c :: rest) then none
    else if c = '"' then some ((gap.text ++ before).reverse, rest)
    else if c = '\\' then
      match rest with
      | '\r' :: '\n' :: rest => doubleQuoted? (gap.text ++ before) .join rest
      | 'x' :: a :: b :: rest =>
        match characterOf? [a, b] with
        | some c => doubleQuoted? (c :: gap.text ++ before) .none rest
        | none => none
      | 'u' :: a :: b :: c :: d :: rest =>
        match characterOf? [a, b, c, d] with
        | some c => doubleQuoted? (c :: gap.text ++ before) .none rest
        | none => none
      | 'U' :: a :: b :: c :: d :: e :: f :: g :: h :: rest =>
        match characterOf? [a, b, c, d, e, f, g, h] with
        | some c => doubleQuoted? (c :: gap.text ++ before) .none rest
        | none => none
      | e :: rest =>
        if isBreak e then doubleQuoted? (gap.text ++ before) .join rest
        else match unescape? e with
          | some c => doubleQuoted? (c :: gap.text ++ before) .none rest
          | none => none
      | [] => none
    else doubleQuoted? (c :: gap.text ++ before) .none rest

def isFlowMark (c : Char) : Bool := c = ',' || c = '[' || c = ']' || c = '\x7b' || c = '\x7d'

def startsPlain (inFlow : Bool) : List Char → Bool
  | [] => false
  | c :: rest =>
    if c = '-' then !rest.head?.any isSpace
    else if c = '?' || c = ':' then !inFlow && !startsBlank rest
    else !isSpace c && !isBreak c && !isFlowMark c && !"#&*!|>'\"%@".toList.contains c &&
      c ≠ '\x60'

/-- A plain scalar, and what follows it. -/
structure PlainText where
  text : List Char
  /-- Whether the end of a line was passed over behind it. -/
  endsLine : Bool
  rest : List Char
  deriving DecidableEq, Repr

/-- Whether a plain scalar ends before a text that stands behind it and the gap. Lines that stand to
the left of `least` do not belong to it, unless a flow collection is around it. -/
def endsPlain (inFlow : Bool) (least : Nat) (gap : Gap) : List Char → Bool
  | [] => true
  | c :: rest =>
    (!inFlow && gap.isFolded && gap.column < least) ||
      (gap.startsLine && startsMarker (c :: rest)) ||
      (!gap.isNone && c = '#') ||
      (c = ':' && startsBlank rest) ||
      (inFlow && isFlowMark c)

/-- The plain scalar that goes on here after `before` and the gap. In a flow collection no mark may
stand right behind a colon. -/
def plain? (inFlow : Bool) (least : Nat) (before : List Char) (gap : Gap) :
    List Char → Option PlainText
  | [] => some ⟨before.reverse, gap.isFolded, []⟩
  | '\r' :: '\n' :: rest => plain? inFlow least before (gap.lineBreak '\n') rest
  | c :: rest =>
    if isBreak c then plain? inFlow least before (gap.lineBreak c) rest
    else if isSpace c then
      if c = '\t' && gap.isFolded && gap.column < least then none
      else plain? inFlow least before (gap.space c) rest
    else if endsPlain inFlow least gap (c :: rest) then
      some ⟨before.reverse, gap.isFolded, c :: rest⟩
    else if inFlow && c = ':' && rest.head?.any (fun d => isFlowMark d || d = '?') then none
    else plain? inFlow least (c :: gap.text ++ before) .none rest

end BlockIndexer.Yaml
