/-
# Connectives

The six connectives of propositional formulas: negation, which takes one operand, and
five connectives that join two formulas.  Every connective has a written symbol and a
binding strength, and acts on truth values by a standard truth function.

The binary connectives are a type of their own, because a formula tree must not join
two formulas by a negation.  In a sequence of tokens nothing rules out a connective
with the wrong number of operands, so `Connective` covers all six.
-/

namespace TruthTable

/-- A connective that joins two formulas. -/
inductive BinaryConnective where
  | and
  | or
  | xor
  | implies
  | iff
deriving DecidableEq

namespace BinaryConnective

/-- The written form of a binary connective. -/
def symbol : BinaryConnective → String
  | and => "&"
  | or => "|"
  | xor => "^"
  | implies => "->"
  | iff => "<->"

/-- The English name of a binary connective. -/
def name : BinaryConnective → String
  | and => "And"
  | or => "Or"
  | xor => "Xor"
  | implies => "Implies"
  | iff => "Iff"

/-- The binding strength: a connective with a higher number binds tighter. -/
def precedence : BinaryConnective → Nat
  | and => 4
  | or => 3
  | xor => 2
  | implies => 1
  | iff => 0

/-- The truth function, on the values of the left and of the right operand. -/
def apply : BinaryConnective → Bool → Bool → Bool
  | and, a, b => a && b
  | or, a, b => a || b
  | xor, a, b => a != b
  | implies, a, b => !a || b
  | iff, a, b => a == b

/-- All binary connectives, from the loosest to the tightest. -/
def all : List BinaryConnective := [iff, implies, xor, or, and]

end BinaryConnective

/-- A connective of either arity. -/
inductive Connective where
  | not
  | binary (op : BinaryConnective)
deriving DecidableEq

namespace Connective

/-- The written form of a connective. -/
def symbol : Connective → String
  | not => "~"
  | binary op => op.symbol

/-- The English name of a connective. -/
def name : Connective → String
  | not => "Not"
  | binary op => op.name

/-- The number of operands. -/
def arity : Connective → Nat
  | not => 1
  | binary _ => 2

/-- Whether the connective stands in front of a single operand. -/
def isUnary (op : Connective) : Bool := op.arity == 1

/-- Whether the connective stands between two operands. -/
def isBinary (op : Connective) : Bool := op.arity == 2

/-- The binding strength.  Negation binds tighter than every binary connective. -/
def precedence : Connective → Nat
  | not => 5
  | binary op => op.precedence

/-- All connectives. -/
def all : List Connective := not :: BinaryConnective.all.map binary

@[simp] theorem isUnary_not : isUnary not = true := rfl

@[simp] theorem isUnary_binary (op : BinaryConnective) : isUnary (binary op) = false := rfl

theorem precedence_binary_lt_not (op : BinaryConnective) :
    (binary op).precedence < not.precedence := by
  cases op <;> decide

end Connective

end TruthTable
