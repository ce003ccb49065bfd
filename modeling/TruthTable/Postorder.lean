/-
# Putting a token sequence into postorder

In postorder every operator stands after its operands, and no parentheses are needed.
The conversion reads the tokens once from the left.  A letter goes to its final place at
once.  An operator waits for its right operand; a binary operator first releases the
waiting operators that bind at least as tightly, because these are complete now, so
that operators of equal strength group to the left.  Negation has no left operand and
releases nothing.

A parenthesised group is converted on its own: an opening parenthesis puts the waiting
operators of the enclosing group aside, and the closing one releases all operators of the
inner group.  So no operator ever looks past the parenthesis that surrounds it.
-/
import TruthTable.Failure
import TruthTable.Token

namespace TruthTable.Postorder

/-- What is known between two tokens of the input. -/
structure State where
  /-- The tokens in their final place, latest first. -/
  placed : List Token := []
  /-- The waiting operators of the innermost open group, latest first. -/
  waiting : List Connective := []
  /-- The waiting operators of the enclosing groups, innermost group first. -/
  enclosing : List (List Connective) := []
deriving DecidableEq

/-- Moves operators to their final place, the first one first. -/
def place (ops : List Connective) (placed : List Token) : List Token :=
  (ops.map Token.connective).reverse ++ placed

/-- Reads an operator. -/
def State.operator (s : State) (op : Connective) : State :=
  if op.isUnary then { s with waiting := op :: s.waiting }
  else
    let complete (top : Connective) : Bool := op.precedence ≤ top.precedence
    { s with
      placed := place (s.waiting.takeWhile complete) s.placed
      waiting := op :: s.waiting.dropWhile complete }

/-- Reads a token.  The only thing that can go wrong is a closing parenthesis without a
group to close. -/
def State.read (s : State) : Token → Option State
  | .letter c => some { s with placed := .letter c :: s.placed }
  | .connective op => some (s.operator op)
  | .leftParen => some { s with waiting := [], enclosing := s.waiting :: s.enclosing }
  | .rightParen =>
    match s.enclosing with
    | [] => none
    | outer :: enclosing => some { placed := place s.waiting s.placed, waiting := outer, enclosing }

/-- The finished sequence, if every group is closed. -/
def State.finish (s : State) : Option (List Token) :=
  if s.enclosing.isEmpty then some (place s.waiting s.placed).reverse else none

/-- The sequence in postorder, if the parentheses match. -/
def ofTokens? (ts : List Token) : Option (List Token) :=
  (ts.foldlM State.read {}).bind State.finish

/-- The sequence in postorder. -/
def ofTokens (ts : List Token) : Except FormulaError (List Token) :=
  match ofTokens? ts with
  | some ps => .ok ps
  | none => .error .unbalancedParentheses

end TruthTable.Postorder
