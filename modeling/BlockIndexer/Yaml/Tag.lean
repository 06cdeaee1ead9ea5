import BlockIndexer.Yaml.Character
import BlockIndexer.Yaml.Token

/-! Tags, the names of nodes, and the lines before a document that say how tags are to be read. Any
byte of a tag may be written as a percent sign and two hexadecimal digits, as long as the bytes of
one character stand together. -/

namespace BlockIndexer.Yaml

open BlockIndexer.Text (Symbol)

def isTagCharacter (complete : Bool) (c : Char) : Bool :=
  isWord c || ";/?:@&=+$.!~*'()".toList.contains c || (complete && ",[]".toList.contains c)

def characterLength? (b : UInt8) : Option Nat :=
  if b < 0x80 then some 1
  else if 0xC0 ≤ b ∧ b < 0xE0 then some 2
  else if 0xE0 ≤ b ∧ b < 0xF0 then some 3
  else if 0xF0 ≤ b ∧ b < 0xF8 then some 4
  else none

/-- The part of a tag that goes on here, and what follows it. Of a character whose bytes are being
read, `bytes` holds those before, the last one first, and `left` bytes are still to come. -/
def tagText? (complete : Bool) (before : Tag) (bytes : List UInt8) (left : Nat) :
    List Char → Option (Tag × List Char)
  | '%' :: a :: b :: cs =>
    match hexDigit? a, hexDigit? b with
    | some a, some b =>
      let byte := UInt8.ofNat (16 * a + b)
      match if left = 0 then characterLength? byte
          else if (Symbol.continuation? byte).isSome then some left else none with
      | none => none
      | some 1 =>
        tagText? complete ((Symbol.ofBytes (byte :: bytes).reverse).reverse ++ before) [] 0 cs
      | some length => tagText? complete before (byte :: bytes) (length - 1) cs
    | _, _ => none
  | c :: cs =>
    if left ≠ 0 || c = '%' then none
    else if isTagCharacter complete c then tagText? complete (.char c :: before) [] 0 cs
    else some (before.reverse, c :: cs)
  | [] => if left = 0 then some (before.reverse, []) else none

/-- A tag ends before the first null character that its escapes spell. -/
def beforeNull (tag : Tag) : Tag := tag.takeWhile (· ≠ .char '\x00')

/-- A handle, or what looks like the start of one, and what follows it. -/
def handle? : List Char → Option (List Char × List Char)
  | '!' :: cs =>
    let word := cs.takeWhile isWord
    match cs.dropWhile isWord with
    | '!' :: rest => some ('!' :: word ++ ['!'], rest)
    | rest => some ('!' :: word, rest)
  | _ => none

def isHandle (cs : List Char) : Bool := 2 ≤ cs.length && cs.getLast? = some '!'

/-- Whether a tag may end before this text. -/
def endsTag (inFlow : Bool) (cs : List Char) : Bool :=
  startsBlank cs || (inFlow && cs.head? = some ',')

/-- The tag that starts here, and what follows it. -/
def tag? (inFlow : Bool) (cs : List Char) : Option (Token × List Char) :=
  let found : Option (Token × List Char) :=
    match cs with
    | '!' :: '<' :: cs =>
      match tagText? true [] [] 0 cs with
      | some (tag, '>' :: rest) =>
        if tag.isEmpty then none else some (.tag none (beforeNull tag), rest)
      | _ => none
    | _ =>
      (handle? cs).bind fun (handle, rest) =>
        if isHandle handle then
          (tagText? false [] [] 0 rest).bind fun (tag, rest) =>
            if tag.isEmpty then none
            else some (.tag (some (String.ofList handle)) (beforeNull tag), rest)
        else
          (tagText? false (handle.tail.map Symbol.char).reverse [] 0 rest).map fun (tag, rest) =>
            let tag := beforeNull tag
            (if tag.isEmpty then .tag none [.char '!'] else .tag (some "!") tag, rest)
  found.filter fun (_, rest) => endsTag inFlow rest

def name? (cs : List Char) : Option (String × List Char) :=
  let name := cs.takeWhile isWord
  let rest := cs.dropWhile isWord
  if !name.isEmpty && (startsBlank rest || rest.head?.any ("?:,]\x7d%@\x60".toList.contains ·))
  then some (String.ofList name, rest) else none

/-- A number of at most nine digits, and what follows it. -/
def versionNumber? (cs : List Char) : Option (Nat × List Char) :=
  let digits := cs.takeWhile Char.isDigit
  if digits.isEmpty || 9 < digits.length then none
  else (Text.natOfDigits? 10 digits 0).map (·, cs.dropWhile Char.isDigit)

/-- What a line after the name of its directive says, and the rest of the line. -/
def directiveOf? (name : String) (cs : List Char) : Option (Token × List Char) :=
  let cs := cs.dropWhile isSpace
  match name with
  | "YAML" =>
    match versionNumber? cs with
    | some (major, '.' :: cs) =>
      (versionNumber? cs).map fun (minor, rest) => (.version major minor, rest)
    | _ => none
  | "TAG" =>
    (handle? cs).bind fun (handle, rest) =>
      if (isHandle handle || handle = ['!']) && rest.head?.any isSpace then
        (tagText? true [] [] 0 (rest.dropWhile isSpace)).bind fun (start, rest) =>
          if start.isEmpty || !startsBlank rest then none
          else some (.handle (String.ofList handle) (beforeNull start), rest)
      else none
  | _ => none

/-- The directive behind a percent sign, and what follows its line. -/
def directive? (cs : List Char) : Option (Token × List Char) :=
  let name := cs.takeWhile isWord
  let rest := cs.dropWhile isWord
  if name.isEmpty || !startsBlank rest then none
  else (directiveOf? (String.ofList name) rest).bind fun (token, rest) =>
    (dropLine? rest).map (token, ·)

end BlockIndexer.Yaml
