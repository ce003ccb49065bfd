/-
# Reading tokens

Blanks carry no meaning and are dropped first.  What remains is read from the left, the
longest token first: `<->` before `->`, and `->` before any single character, so that
neither arrow is ever split.  Reading stops at the first character that starts no token.
-/
import TruthTable.Failure
import TruthTable.Text.Blank
import TruthTable.Token

namespace TruthTable.Token

/-- The token that is written with this single character. -/
def ofChar? (c : Char) : Option Token :=
  if c = '~' then some (.connective .not)
  else if c = '&' then some (.connective (.binary .and))
  else if c = '|' then some (.connective (.binary .or))
  else if c = '^' then some (.connective (.binary .xor))
  else if c = '(' then some .leftParen
  else if c = ')' then some .rightParen
  else if 'A' ≤ c ∧ c ≤ 'Z' then some (.letter c)
  else none

/-- Reads the tokens of a text without blanks. -/
def scan : List Char → Except FormulaError (List Token)
  | [] => .ok []
  | '<' :: '-' :: '>' :: rest => (scan rest).map (.connective (.binary .iff) :: ·)
  | '-' :: '>' :: rest => (scan rest).map (.connective (.binary .implies) :: ·)
  | c :: rest =>
    match ofChar? c with
    | some t => (scan rest).map (t :: ·)
    | none => .error (.invalidSymbol c)

/-- Reads the tokens of a text. -/
def tokenize (s : String) : Except FormulaError (List Token) :=
  scan (Text.withoutBlanks s.toList)

end TruthTable.Token
