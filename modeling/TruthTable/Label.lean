/-
# Labels

Every subformula has a label that shows its structure: a letter is its own label, a
negation is `~` before the label of its operand, and a binary connective stands between
the labels of its operands in parentheses.  The label depends on the structure only, so
`(A&B)` and `(B&A)` are two labels.
-/
import TruthTable.Connective

namespace TruthTable.Label

/-- The label of a letter. -/
def letter (c : Char) : String := c.toString

/-- The label of a connective in front of its operand. -/
def unary (op : Connective) (a : String) : String := op.symbol ++ a

/-- The label of a connective between its operands. -/
def binary (op : Connective) (a b : String) : String := "(" ++ a ++ op.symbol ++ b ++ ")"

@[simp] theorem toList_letter (c : Char) : (letter c).toList = [c] := by
  simp [letter]

@[simp] theorem toList_unary (op : Connective) (a : String) :
    (unary op a).toList = op.symbol.toList ++ a.toList := by
  simp [unary]

@[simp] theorem toList_binary (op : Connective) (a b : String) :
    (binary op a b).toList =
      '(' :: (a.toList ++ (op.symbol.toList ++ (b.toList ++ [')']))) := by
  simp [binary]

end TruthTable.Label
