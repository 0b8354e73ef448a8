import Provisioner.Text.Glyph
/-!
# Quoted text

A text between double quotes in which every character can be told apart on sight: the quote and
the backslash are written after a backslash, the common control characters by their letter, and
any other character without a glyph of its own by its code point in hexadecimal.
-/

namespace Provisioner.Text

/-- A number in hexadecimal, without leading zeros. -/
def hex (n : Nat) : List Char := Nat.toDigits 16 n

/-- How one character is written between the quotes. -/
def quoteChar (c : Char) : List Char :=
  if c = '"' then ['\\', '"']
  else if c = '\\' then ['\\', '\\']
  else if c = '\n' then ['\\', 'n']
  else if c = '\r' then ['\\', 'r']
  else if c = '\t' then ['\\', 't']
  else if c = '\x00' then ['\\', '0']
  else if hasGlyph c then [c]
  else ['\\', 'u', '\x7b'] ++ hex c.toNat ++ ['\x7d']

/-- A text between double quotes. -/
def quote (s : String) : String :=
  String.ofList ('"' :: s.toList.flatMap quoteChar ++ ['"'])

end Provisioner.Text
