import BlockIndexer.Text.Hidden

/-! Text between double quotes, for messages. A quote, a backslash and the usual controls stand
after a backslash, any other hidden character is written as its code point. -/

namespace BlockIndexer.Text

/-- How a character is shown between quotes. -/
def shown (c : Char) : List Char :=
  if c = '"' then ['\\', '"']
  else if c = '\\' then ['\\', '\\']
  else if c = '\n' then ['\\', 'n']
  else if c = '\r' then ['\\', 'r']
  else if c = '\t' then ['\\', 't']
  else if c = '\x00' then ['\\', '0']
  else if isHidden c then '\\' :: 'u' :: '\x7b' :: Nat.toDigits 16 c.toNat ++ ['\x7d']
  else [c]

def quotedChars (s : String) : List Char := '"' :: s.toList.flatMap shown ++ ['"']

def quoted (s : String) : String := String.ofList (quotedChars s)

end BlockIndexer.Text
