/-
# Formulas

A formula is a tree of letters, negations and binary connectives.  The program never
builds such trees: it works on token sequences throughout.  They are what the sequences
stand for, so they say what a right answer is.

A formula has a meaning (`Holds`, or `eval` as a truth value), a label, and a
unique sequence of tokens in postorder.
-/
import TruthTable.Label
import TruthTable.Token

namespace TruthTable

/-- The formulas of propositional logic. -/
inductive Formula where
  | letter (c : Char)
  | not (f : Formula)
  | binary (op : BinaryConnective) (f g : Formula)
deriving DecidableEq

namespace Formula

/-! ## Meaning -/

/-- Whether a formula holds if exactly the letters in `v` are true. -/
def Holds (v : Char → Prop) : Formula → Prop
  | letter c => v c
  | not f => ¬f.Holds v
  | binary .and f g => f.Holds v ∧ g.Holds v
  | binary .or f g => f.Holds v ∨ g.Holds v
  | binary .xor f g => ¬(f.Holds v ↔ g.Holds v)
  | binary .implies f g => f.Holds v → g.Holds v
  | binary .iff f g => f.Holds v ↔ g.Holds v

/-- The truth value of a formula under an assignment to all letters. -/
def eval (v : Char → Bool) : Formula → Bool
  | letter c => v c
  | not f => !f.eval v
  | binary op f g => op.apply (f.eval v) (g.eval v)

/-- The truth value says whether the formula holds. -/
theorem eval_eq_true_iff (v : Char → Bool) (f : Formula) :
    f.eval v = true ↔ f.Holds (v · = true) := by
  induction f with
  | letter c => rfl
  | not f ih => simp [eval, Holds, ← ih]
  | binary op f g ihf ihg =>
    cases op <;> simp only [eval, Holds, ← ihf, ← ihg, BinaryConnective.apply] <;>
      cases f.eval v <;> cases g.eval v <;> decide

/-! ## Parts -/

/-- Whether a formula is no single letter. -/
def isCompound : Formula → Bool
  | letter _ => false
  | _ => true

/-- All subformulas in postorder, each as often as it occurs. -/
def subformulas : Formula → List Formula
  | letter c => [letter c]
  | not f => f.subformulas ++ [not f]
  | binary op f g => f.subformulas ++ g.subformulas ++ [binary op f g]

/-- The letters from left to right, each as often as it occurs. -/
def letters : Formula → List Char
  | letter c => [c]
  | not f => f.letters
  | binary _ f g => f.letters ++ g.letters

theorem mem_subformulas_self (f : Formula) : f ∈ f.subformulas := by
  cases f <;> simp [subformulas]

/-- The truth value depends on the letters that occur. -/
theorem eval_congr {v w : Char → Bool} {f : Formula} (h : ∀ c ∈ f.letters, v c = w c) :
    f.eval v = f.eval w := by
  induction f with
  | letter c => exact h c (by simp [letters])
  | not f ih => simp only [eval, ih h]
  | binary op f g ihf ihg =>
    simp only [letters, List.mem_append] at h
    simp only [eval, ihf fun c hc => h c (.inl hc), ihg fun c hc => h c (.inr hc)]

/-- Puts formulas in the place of letters. -/
def subst (s : Char → Formula) : Formula → Formula
  | letter c => s c
  | not f => not (f.subst s)
  | binary op f g => binary op (f.subst s) (g.subst s)

/-- Evaluating after a substitution is evaluating under the values of what was put in. -/
theorem eval_subst (v : Char → Bool) (s : Char → Formula) (f : Formula) :
    (f.subst s).eval v = f.eval fun c => (s c).eval v := by
  induction f with
  | letter c => rfl
  | not f ih => simp only [subst, eval, ih]
  | binary op f g ihf ihg => simp only [subst, eval, ihf, ihg]

/-! ## Written forms -/

/-- The label of a formula. -/
def label : Formula → String
  | letter c => Label.letter c
  | not f => Label.unary .not f.label
  | binary op f g => Label.binary (.binary op) f.label g.label

/-- The tokens of a formula in postorder: left operand, right operand, connective. -/
def postorder : Formula → List Token
  | letter c => [.letter c]
  | not f => f.postorder ++ [.connective .not]
  | binary op f g => f.postorder ++ g.postorder ++ [.connective (.binary op)]

/-- The tokens of the label of a formula, with parentheses around every two operands. -/
def tokens : Formula → List Token
  | letter c => [.letter c]
  | not f => .connective .not :: f.tokens
  | binary op f g =>
    .leftParen :: (f.tokens ++ .connective (.binary op) :: g.tokens ++ [.rightParen])

end Formula

end TruthTable
