/-
# Failures

Three kinds of trouble are kept apart.  A `FormulaError` is the answer to an input that
is no formula, or too large a one; it is part of the ordinary results.  A `Fault` is the
misuse of an operation by its caller: a truth value was asked for that nobody supplied,
a connective was applied to the wrong number of operands, or a text was to be padded to
an immense width.  A fault that nobody expects breaks the program off.  A `Failure` is
either of the two, for the operations in which both can arise.
-/
import TruthTable.Connective

namespace TruthTable

/-- Why an input has no truth table. -/
inductive FormulaError where
  /-- The character starts no token. -/
  | invalidSymbol (c : Char)
  /-- A parenthesis has no partner. -/
  | unbalancedParentheses
  /-- No proposition letter occurs. -/
  | noLetters
  /-- Operators and operands do not combine into a single formula. -/
  | malformed
  /-- More distinct letters occur than the caller allows. -/
  | tooManyLetters (found limit : Nat)
deriving DecidableEq

/-- The text shown for an error. -/
def FormulaError.message : FormulaError → String
  | invalidSymbol c => "invalid symbol: '" ++ c.toString ++ "'"
  | unbalancedParentheses => "unbalanced parentheses"
  | noLetters => "no propositions found"
  | malformed => "malformed formula"
  | tooManyLetters found limit =>
    "too many propositions: " ++ toString found ++ " (limit is " ++ toString limit ++ ")"

/-- What a caller has done wrong. -/
inductive Fault where
  /-- The assignment has no value for a letter of the formula. -/
  | unassigned (letter : Char)
  /-- A row was read through columns of another formula. -/
  | missingColumn (label : String)
  /-- A connective of two operands was given one. -/
  | notUnary (op : Connective)
  /-- A connective of one operand was given two. -/
  | notBinary (op : Connective)
  /-- A text was to be padded to more characters than is possible. -/
  | tooWide
deriving DecidableEq

/-- The text shown for a fault. -/
def Fault.message : Fault → String
  | unassigned letter => "no value assigned to proposition " ++ letter.toString
  | missingColumn label => "row has no value for column " ++ label
  | notUnary op => op.name ++ " is not a unary operator"
  | notBinary op => op.name ++ " is not a binary operator"
  | tooWide => "Formatting argument out of range"

/-- Either kind of trouble. -/
inductive Failure where
  | error (e : FormulaError)
  | fault (f : Fault)
deriving DecidableEq

/-- The text shown for a failure. -/
def Failure.message : Failure → String
  | error e => e.message
  | fault f => f.message

namespace Connective

/-- Applies a connective to one truth value.  Only negation takes a single operand. -/
def applyUnary : Connective → Bool → Except Fault Bool
  | not, a => .ok (!a)
  | binary op, _ => .error (.notUnary (binary op))

/-- Applies a connective to the values of its left and of its right operand. -/
def applyBinary : Connective → Bool → Bool → Except Fault Bool
  | not, _, _ => .error (.notBinary not)
  | binary op, a, b => .ok (op.apply a b)

end Connective

end TruthTable
