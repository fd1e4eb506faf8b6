import Rebac.Text.Unprintable
import Rebac.Text.Extending

namespace Rebac.Text

/-!
# Quoted text

How a text of unknown content is shown inside a message: between quotation marks, with every
character that could not be seen, or that would merge with its neighbour, written as an escape.
-/

/-- The lower-case hexadecimal digits of `n`, without leading zeros. -/
def hexDigits (n : Nat) : List Char :=
  Nat.toDigits 16 n

/-- The escape of a character by its code point. -/
def codePointEscape (c : Char) : List Char :=
  ['\\', 'u', '\x7b'] ++ hexDigits c.toNat ++ ['\x7d']

/-- One character as it stands in a quoted text. A single quotation mark stands for itself. -/
def quotedChar (c : Char) : List Char :=
  if c = '\x00' then ['\\', '0']
  else if c = '\t' then ['\\', 't']
  else if c = '\n' then ['\\', 'n']
  else if c = '\r' then ['\\', 'r']
  else if c = '"' then ['\\', '"']
  else if c = '\\' then ['\\', '\\']
  else if 0x20 ≤ c.toNat && c.toNat < 0x7f then [c]
  else if isExtending c || isUnprintable c then codePointEscape c
  else [c]

/-- `s` between quotation marks, each character in its quoted form. -/
def quoted (s : String) : String :=
  String.ofList ('"' :: s.toList.flatMap quotedChar ++ ['"'])

end Rebac.Text
