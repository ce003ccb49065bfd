/-
# Grammars of token sequences

Two grammars say which token sequences are written formulas.

`Derivable` is the short grammar, in which a formula is a letter, a formula in
parentheses, a negated formula, or two formulas with a binary connective between them.
It does not say where a sequence is to be divided.

`Reads` is the grammar with one level for each binary connective, from `<->` up to `&`, and
one for letters, negations and groups.  A formula of some level is built with the
connective of that level, or it is a formula of the next level; the left operand may have
the same level, the right operand must have a higher one.  The grammar assigns a formula
to a sequence, and the parentheses leave no trace in the formula.

`Operand` marks a part of a sequence that is read as one subformula, together with what
stands before and after it.
-/
import TruthTable.Formula

namespace TruthTable

namespace Token

/-- The written formulas, without regard to levels. -/
inductive Derivable : List Token → Prop
  | letter (c : Char) : Derivable [.letter c]
  | group {ts : List Token} : Derivable ts → Derivable (.leftParen :: (ts ++ [.rightParen]))
  | not {ts : List Token} : Derivable ts → Derivable (.connective .not :: ts)
  | binary {ts us : List Token} (op : BinaryConnective) :
      Derivable ts → Derivable us → Derivable (ts ++ .connective (.binary op) :: us)

end Token

/-- The level of the formulas that are built with a binary connective. -/
def BinaryConnective.level : BinaryConnective → Nat
  | iff => 0
  | implies => 1
  | xor => 2
  | or => 3
  | and => 4

namespace Formula

/-- The level of letters, negations and groups. -/
def unitLevel : Nat := 5

/-- The formula that a sequence stands for, read on level `n` or a higher one. -/
inductive Reads : Nat → List Token → Formula → Prop
  | letter (c : Char) : Reads unitLevel [.letter c] (.letter c)
  | group {ts : List Token} {f : Formula} :
      Reads 0 ts f → Reads unitLevel (.leftParen :: (ts ++ [.rightParen])) f
  | not {ts : List Token} {f : Formula} :
      Reads unitLevel ts f → Reads unitLevel (.connective .not :: ts) (.not f)
  | binary {ts us : List Token} {f g : Formula} (op : BinaryConnective) :
      Reads op.level ts f → Reads (op.level + 1) us g →
        Reads op.level (ts ++ .connective (.binary op) :: us) (.binary op f g)
  | tighter {n : Nat} {ts : List Token} {f : Formula} :
      n < unitLevel → Reads (n + 1) ts f → Reads n ts f

/-- The sequence `us` is read as one subformula where it stands after `before` and in front of
`after`, in a formula that is read on level `n` or a higher one. -/
inductive Operand (us : List Token) : Nat → List Token → List Token → Prop
  | whole {n : Nat} {f : Formula} : Reads n us f → Operand us n [] []
  | group {before after : List Token} :
      Operand us 0 before after →
        Operand us unitLevel (.leftParen :: before) (after ++ [.rightParen])
  | not {before after : List Token} :
      Operand us unitLevel before after →
        Operand us unitLevel (.connective .not :: before) after
  | left {before after ws : List Token} {g : Formula} (op : BinaryConnective) :
      Operand us op.level before after → Reads (op.level + 1) ws g →
        Operand us op.level before (after ++ .connective (.binary op) :: ws)
  | right {vs before after : List Token} {f : Formula} (op : BinaryConnective) :
      Reads op.level vs f → Operand us (op.level + 1) before after →
        Operand us op.level (vs ++ .connective (.binary op) :: before) after
  | tighter {n : Nat} {before after : List Token} :
      n < unitLevel → Operand us (n + 1) before after →
        Operand us n before after

/-- Whatever has a reading is a written formula. -/
theorem Reads.derivable {n : Nat} {ts : List Token} {f : Formula} (h : Reads n ts f) :
    Token.Derivable ts := by
  induction h with
  | letter c => exact .letter c
  | group _ ih => exact .group ih
  | not _ ih => exact .not ih
  | binary op _ _ ihf ihg => exact .binary op ihf ihg
  | tighter _ _ ih => exact ih

end Formula

end TruthTable
