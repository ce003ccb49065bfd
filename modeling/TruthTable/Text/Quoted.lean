/-
# Quoted text

A text in double quotes on one line.  The quote and the backslash are marked by a
backslash, and so are the common control characters under their letters.  All other
characters that cannot be shown as they are stand as their code point in braces.
-/
import TruthTable.Text.Printable

namespace TruthTable.Text

/-- A code point in braces, as hexadecimal number without leading zeros. -/
def codePoint (c : Char) : List Char :=
  '\\' :: 'u' :: '{' :: (Nat.toDigits 16 c.toNat ++ ['}'])

/-- The form of a character inside quotes. -/
def quotedChar (c : Char) : List Char :=
  if c = '\x00' then ['\\', '0']
  else if c = '\t' then ['\\', 't']
  else if c = '\n' then ['\\', 'n']
  else if c = '\r' then ['\\', 'r']
  else if c = '"' then ['\\', '"']
  else if c = '\\' then ['\\', '\\']
  else if isPrintable c && !isExtendingMark c then [c]
  else codePoint c

/-- A text in quotes. -/
def quoted (cs : List Char) : List Char :=
  '"' :: (cs.flatMap quotedChar ++ ['"'])

end TruthTable.Text
