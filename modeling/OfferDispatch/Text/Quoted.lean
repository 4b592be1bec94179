import OfferDispatch.Text.Unprintable

/-!
# Quoted text

A text that is shown to an operator stands between quotation marks. A quotation mark, a backslash
and the common control characters are escaped with a backslash, and every other character that does
not print is shown by its hexadecimal number, so that what was typed can be told apart.
-/

namespace OfferDispatch.Text

/-- The digits of a number in a base of at most sixteen, most significant first. -/
def digitsIn (base n : Nat) : List Char := Nat.toDigits base n

/-- One character as a quoted text shows it. -/
def quotedChar (c : Char) : List Char :=
  if c = '"' then ['\\', '"']
  else if c = '\\' then ['\\', '\\']
  else if c = '\n' then ['\\', 'n']
  else if c = '\r' then ['\\', 'r']
  else if c = '\t' then ['\\', 't']
  else if c.toNat = 0 then ['\\', '0']
  else if isPrintable c then [c]
  else ['\\', 'u', '\x7b'] ++ digitsIn 16 c.toNat ++ ['\x7d']

/-- A text between quotation marks, with everything escaped that would not be seen. -/
def quoted (s : String) : String :=
  String.ofList (['"'] ++ s.toList.flatMap quotedChar ++ ['"'])

end OfferDispatch.Text
