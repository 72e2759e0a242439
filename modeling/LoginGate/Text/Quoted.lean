/-
# Quoted text

Text between double quotes as listings show it: a quote and a backslash have a backslash before
them, line breaks, tabs and zeros are letters behind a backslash, and every other character that
does not show by itself is written as its number.
-/
import LoginGate.Text.HiddenRanges

namespace LoginGate.Text

/-- A character as its number in hexadecimal. -/
def numbered (c : Char) : List Char :=
  '\\' :: 'u' :: '\x7b' :: Nat.toDigits 16 c.toNat ++ ['\x7d']

/-- The quoted form of one character. -/
def quotedChar (c : Char) : List Char :=
  if c = '\x22' || c = '\\' then ['\\', c]
  else if c = '\x00' then ['\\', '0']
  else if c = '\t' then ['\\', 't']
  else if c = '\r' then ['\\', 'r']
  else if c = '\n' then ['\\', 'n']
  else if isHidden c then numbered c
  else [c]

/-- Text between double quotes. -/
def quoted (s : String) : String :=
  String.ofList ('\x22' :: s.toList.flatMap quotedChar ++ ['\x22'])

end LoginGate.Text
