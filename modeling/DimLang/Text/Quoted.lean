import DimLang.Text.Hidden

/-!
# Quoted texts

Messages and listings show a text between double quotes. Inside, quotes and backslashes are
escaped, the zero character, tab, newline and carriage return have an escape of one letter, and
every other character without a picture of its own is shown by its code.

- `quoted` is the quoted form of a text
-/

namespace DimLang.Text

/-- The lower case hexadecimal digits of a number. -/
def hexDigits (n : Nat) : List Char :=
  Nat.toDigits 16 n

/-- How a character is written inside quotes. -/
def quotedChar (c : Char) : List Char :=
  if c = '"' then ['\\', '"']
  else if c = '\\' then ['\\', '\\']
  else if c = '\n' then ['\\', 'n']
  else if c = '\t' then ['\\', 't']
  else if c = '\r' then ['\\', 'r']
  else if c.toNat = 0 then ['\\', '0']
  else if isHidden c then ['\\', 'u', '\x7b'] ++ hexDigits c.toNat ++ ['\x7d']
  else [c]

/-- The text between double quotes, on one line and without unprintable characters. -/
def quoted (text : String) : String :=
  String.ofList ('"' :: (text.toList.flatMap quotedChar ++ ['"']))

end DimLang.Text
