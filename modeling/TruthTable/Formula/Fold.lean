/-
# Folding a formula

The fold of a formula by a monadic step function: the operands are folded first, the left
one before the right one, and then the step is taken for the formula itself.
-/
import TruthTable.Formula
import TruthTable.Postorder.Fold

namespace TruthTable.Formula

open Postorder (Step)

variable {m : Type → Type} [Monad m] {α : Type}

/-- Folds a formula, with one step for every node in postorder. -/
def foldM (step : Step α → m α) : Formula → m α
  | letter c => step (.letter c)
  | not f => do
    let a ← f.foldM step
    step (.unary .not a)
  | binary op f g => do
    let a ← f.foldM step
    let b ← g.foldM step
    step (.binary (.binary op) a b)

end TruthTable.Formula
