/-
# Folding a sequence in postorder

A sequence in postorder is evaluated on a stack of operands: a letter pushes a value, an
operator replaces its operands by its result, and one value is left at the end.  What the
values are and what else happens at each step is up to the caller, who gives one
monadic step function.

Every token sequence can be folded.  One that is not the postorder of a single formula
ends in a `Misfit`, after the steps of the part before the misfit have been run.
-/
import TruthTable.Failure
import TruthTable.Token

namespace TruthTable.Postorder

/-- One node of a formula, with the operands folded already. -/
inductive Step (α : Type) where
  | letter (c : Char)
  | unary (op : Connective) (a : α)
  | binary (op : Connective) (a b : α)

/-- Why a sequence is not the postorder of a single formula. -/
inductive Misfit where
  /-- Parentheses have no place in postorder. -/
  | parenthesis
  /-- An operator, or the end of the sequence, finds too few operands. -/
  | missingOperand
  /-- So many operands are left beside the last one. -/
  | leftOver (count : Nat)
deriving DecidableEq

/-- A formula cannot be made of such a sequence, whatever the misfit is. -/
def Misfit.failure : Misfit → Failure := fun _ => .error .malformed

variable {m : Type → Type} [Monad m] {α : Type}

/-- Folds the rest of a sequence on a stack of operands, the latest first. -/
def foldFrom (step : Step α → m α) : List α → List Token → m (Except Misfit α)
  | stack, [] =>
    pure <| match stack with
      | [] => .error .missingOperand
      | [a] => .ok a
      | _ :: rest => .error (.leftOver rest.length)
  | stack, .letter c :: ps => do
    let r ← step (.letter c)
    foldFrom step (r :: stack) ps
  | stack, .connective op :: ps =>
    if op.isUnary then
      match stack with
      | a :: stack => do
        let r ← step (.unary op a)
        foldFrom step (r :: stack) ps
      | _ => pure (.error .missingOperand)
    else
      match stack with
      | b :: a :: stack => do
        let r ← step (.binary op a b)
        foldFrom step (r :: stack) ps
      | _ => pure (.error .missingOperand)
  | _, .leftParen :: _ => pure (.error .parenthesis)
  | _, .rightParen :: _ => pure (.error .parenthesis)

/-- Folds a sequence. -/
def fold (step : Step α → m α) (ps : List Token) : m (Except Misfit α) :=
  foldFrom step [] ps

end TruthTable.Postorder
