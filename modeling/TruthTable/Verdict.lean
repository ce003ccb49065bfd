/-
# Verdicts

What the values of a formula under all assignments say about the formula.
-/

namespace TruthTable

/-- The three classes of formulas. -/
inductive Verdict where
  /-- True under every assignment. -/
  | tautology
  /-- False under every assignment. -/
  | contradiction
  /-- True under some assignments and false under others. -/
  | contingency
deriving DecidableEq

namespace Verdict

/-- The verdict on a formula with these values.  With no values at all, every one of them
is true. -/
def ofValues (values : List Bool) : Verdict :=
  if values.all id then tautology
  else if values.all not then contradiction
  else contingency

/-- The word shown for a verdict. -/
def name : Verdict → String
  | tautology => "Tautology"
  | contradiction => "Contradiction"
  | contingency => "Contingency"

end Verdict

end TruthTable
