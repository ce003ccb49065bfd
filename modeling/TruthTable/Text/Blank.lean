/-
# Blank characters

The characters with the Unicode property `White_Space`, and the operations that take them
away: from a whole text, from its end, and from both ends.
-/

namespace TruthTable.Text

/-- Whether a character is blank, that is, has the property `White_Space`. -/
def isBlank (c : Char) : Bool :=
  ('\t' ≤ c && c ≤ '\r') || c == ' ' || c == '\u0085' || c == '\u00a0' || c == '\u1680' ||
    ('\u2000' ≤ c && c ≤ '\u200a') || c == '\u2028' || c == '\u2029' || c == '\u202f' ||
    c == '\u205f' || c == '\u3000'

/-- The characters of a text that are not blank. -/
def withoutBlanks (cs : List Char) : List Char :=
  cs.filter (!isBlank ·)

/-- A text without the blanks at its end. -/
def trimEnd (cs : List Char) : List Char :=
  (cs.reverse.dropWhile isBlank).reverse

/-- A text without the blanks at its start and at its end. -/
def trim (cs : List Char) : List Char :=
  trimEnd (cs.dropWhile isBlank)

end TruthTable.Text
