/-
# Well-formed token sequences

A sequence is checked in one pass from the left.  Two facts decide: which kinds of token
may stand next to each other, at the start and at the end, and whether every parenthesis
has its partner.  The check keeps no more than the number of parentheses that are open.

`diagnose` gives the first reason to reject a sequence, and `isWellFormed` holds if there
is none.
-/
import TruthTable.Token

namespace TruthTable.Token

/-- Whether a formula may start with a token of this kind. -/
def Kind.canStart : Kind → Bool
  | letter | leftParen | unary => true
  | rightParen | binary => false

/-- Whether a formula may end with a token of this kind. -/
def Kind.canEnd : Kind → Bool
  | letter | rightParen => true
  | leftParen | unary | binary => false

/-- Whether the second kind of token may directly follow the first.  After an operand an
operator or a closing parenthesis has to come, and after anything else a new operand. -/
def Kind.canPrecede : Kind → Kind → Bool
  | letter, next | rightParen, next => next == .binary || next == .rightParen
  | leftParen, next | unary, next | binary, next => next.canStart

/-- The number of open parentheses after a token, if `depth` are open before it. -/
def depthAfter (depth : Nat) : Token → Nat
  | leftParen => depth + 1
  | rightParen => depth - 1
  | _ => depth

/-- Why a sequence is no formula.  Positions count from zero. -/
inductive Rejection where
  | empty
  /-- A formula cannot start with the first token, or cannot end with the last. -/
  | badEnds (first last : Token)
  /-- The closing parenthesis at this position has no partner. -/
  | unmatched (position : Nat)
  /-- The token at this position must not be followed by the next one. -/
  | badPair (token next : Token) (position : Nat)
  /-- So many parentheses are still open at the end. -/
  | unclosed (surplus : Nat)
deriving DecidableEq

/-- Checks the tokens from `position` on, `depth` parentheses being open. -/
def diagnoseFrom (position depth : Nat) : List Token → Option Rejection
  | [] => if depth = 0 then none else some (.unclosed depth)
  | t :: rest =>
    if t = rightParen ∧ depth = 0 then some (.unmatched position)
    else
      match rest.head?.filter (!t.kind.canPrecede ·.kind) with
      | some next => some (.badPair t next position)
      | none => diagnoseFrom (position + 1) (depthAfter depth t) rest

/-- The first reason to reject a sequence, if there is one. -/
def diagnose (ts : List Token) : Option Rejection :=
  match ts.head?, ts.getLast? with
  | some first, some last =>
    if first.kind.canStart && last.kind.canEnd then diagnoseFrom 0 0 ts
    else some (.badEnds first last)
  | _, _ => some .empty

/-- Whether a sequence is the written form of a formula. -/
def isWellFormed (ts : List Token) : Bool :=
  (diagnose ts).isNone

end TruthTable.Token
