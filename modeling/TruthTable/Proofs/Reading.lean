/-
# Every written formula has a reading

The grammar `Token.Derivable` leaves open how a sequence is to be divided, and the levels
of `Formula.Reads` settle it.  This file shows that the levels lose nothing: every
derivable sequence has a reading (`exists_reads_of_derivable`).

The levels only admit an operand of a higher level to the right of a connective.  So a
derivable sequence cannot be read part by part; instead the right part is taken up piece
by piece, and each piece goes to the right spine of the formula that has been read,
below the connectives that bind more loosely (`Reads.append_tight`).

Parentheses around a part that is read as one subformula change nothing in the reading
(`Operand.exists_reads`).
-/
import Mathlib.Data.List.Basic
import Mathlib.Data.Nat.Basic
import TruthTable.Formula.Grammar

namespace TruthTable.Formula

lemma level_lt_unitLevel (op : BinaryConnective) : op.level < unitLevel := by
  cases op <;> decide

lemma Reads.le_not {n : ℕ} {ts : List Token} {f : Formula} (h : Reads n ts f) :
    n ≤ unitLevel := by
  cases h with
  | letter | group | not => exact le_rfl
  | binary op => exact Nat.le_of_lt (level_lt_unitLevel op)
  | tighter hn => exact Nat.le_of_lt hn

/-- A reading of some level is a reading of every level below it. -/
lemma Reads.loosen {m n : ℕ} {ts : List Token} {f : Formula} (h : Reads n ts f) (hmn : m ≤ n) :
    Reads m ts f := by
  induction n, hmn using Nat.le_induction with
  | base => exact h
  | succ k _ ih => exact ih (h.tighter (Nat.lt_of_succ_le h.le_not))

/-! ## Putting a reading together -/

/-- A negation in front of a sequence is taken by its first tight operand. -/
lemma Reads.not_cons {n : ℕ} {ts : List Token} {f : Formula} (h : Reads n ts f) :
    ∃ g, Reads n (.connective .not :: ts) g := by
  induction h with
  | letter c => exact ⟨_, (Reads.letter c).not⟩
  | group h _ => exact ⟨_, h.group.not⟩
  | not h _ => exact ⟨_, h.not.not⟩
  | binary op _ hr ihl _ =>
    obtain ⟨g, hg⟩ := ihl
    exact ⟨_, by simpa using hg.binary op hr⟩
  | tighter hn _ ih =>
    obtain ⟨g, hg⟩ := ih
    exact ⟨g, hg.tighter hn⟩

/-- A connective and a tight operand at the end of a sequence go to the place on the right
spine of the formula where the connective is tight enough. -/
lemma Reads.append_tight {n : ℕ} {ts us : List Token} {f g : Formula} (h : Reads n ts f)
    (op : BinaryConnective) (hn : n ≤ op.level)
    (hus : Reads unitLevel us g) :
    ∃ k, Reads n (ts ++ .connective (.binary op) :: us) k := by
  have hop : op.level < unitLevel := level_lt_unitLevel op
  induction h with
  | letter | group | not => exact absurd hop (Nat.not_lt.2 hn)
  | @binary vs ws f₁ f₂ op' hvs hws _ ih =>
    rcases Nat.eq_or_lt_of_le hn with heq | hlt
    · -- the same level: all of the formula becomes the left operand
      have hleft : Reads op'.level (vs ++ .connective (.binary op') :: ws) _ :=
        hvs.binary op' hws
      rw [heq] at hleft ⊢
      exact ⟨_, hleft.binary op (hus.loosen hop)⟩
    · obtain ⟨k, hk⟩ := ih hlt
      exact ⟨_, by simpa using hvs.binary op' hk⟩
  | @tighter m vs f hm hvs ih =>
    rcases Nat.eq_or_lt_of_le hn with rfl | hlt
    · exact ⟨_, (hvs.tighter hm).binary op (hus.loosen hop)⟩
    · obtain ⟨k, hk⟩ := ih hlt
      exact ⟨k, hk.tighter hm⟩

/-- A connective and a whole formula at the end of a sequence are taken up one tight
operand after the other. -/
lemma Reads.append {n : ℕ} {us : List Token} {g : Formula} (hus : Reads n us g)
    {ts : List Token} {f : Formula} (h : Reads 0 ts f) (op : BinaryConnective) :
    ∃ k, Reads 0 (ts ++ .connective (.binary op) :: us) k := by
  induction hus generalizing ts f op with
  | letter c => exact h.append_tight op (Nat.zero_le _) (.letter c)
  | group hus _ => exact h.append_tight op (Nat.zero_le _) hus.group
  | not hus _ => exact h.append_tight op (Nat.zero_le _) hus.not
  | binary op' _ _ ihl ihr =>
    obtain ⟨k, hk⟩ := ihl h op
    obtain ⟨k', hk'⟩ := ihr hk op'
    exact ⟨k', by simpa using hk'⟩
  | tighter _ _ ih => exact ih h op

/-- Every written formula has a reading. -/
lemma exists_reads_of_derivable {ts : List Token} (h : Token.Derivable ts) :
    ∃ f, Reads 0 ts f := by
  induction h with
  | letter c => exact ⟨_, (Reads.letter c).loosen (Nat.zero_le _)⟩
  | group _ ih =>
    obtain ⟨f, hf⟩ := ih
    exact ⟨f, hf.group.loosen (Nat.zero_le _)⟩
  | not _ ih =>
    obtain ⟨f, hf⟩ := ih
    exact hf.not_cons
  | binary op _ _ ihl ihr =>
    obtain ⟨f, hf⟩ := ihl
    obtain ⟨g, hg⟩ := ihr
    exact hg.append hf op

/-! ## Parentheses around an operand -/

/-- Around an operand parentheses may be put or left out, with the same reading. -/
lemma Operand.exists_reads {n : ℕ} {us before after : List Token}
    (h : Operand us n before after) :
    ∃ f, Reads n (before ++ us ++ after) f ∧
      Reads n (before ++ (.leftParen :: (us ++ [.rightParen])) ++ after) f := by
  induction h with
  | @whole n f hus =>
    have hgroup : Reads n (.leftParen :: (us ++ [.rightParen])) f :=
      (hus.loosen (Nat.zero_le n)).group.loosen hus.le_not
    exact ⟨f, by simpa using hus, by simpa using hgroup⟩
  | group _ ih =>
    obtain ⟨f, hf, hf'⟩ := ih
    exact ⟨f, by simpa using hf.group, by simpa using hf'.group⟩
  | not _ ih =>
    obtain ⟨f, hf, hf'⟩ := ih
    exact ⟨.not f, by simpa using hf.not, by simpa using hf'.not⟩
  | left op _ hws ih =>
    obtain ⟨f, hf, hf'⟩ := ih
    exact ⟨_, by simpa using hf.binary op hws, by simpa using hf'.binary op hws⟩
  | right op hvs _ ih =>
    obtain ⟨f, hf, hf'⟩ := ih
    exact ⟨_, by simpa using hvs.binary op hf, by simpa using hvs.binary op hf'⟩
  | tighter hn _ ih =>
    obtain ⟨f, hf, hf'⟩ := ih
    exact ⟨f, hf.tighter hn, hf'.tighter hn⟩

end TruthTable.Formula
