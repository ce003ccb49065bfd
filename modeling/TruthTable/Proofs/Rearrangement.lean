/-
# The conversion moves tokens

The conversion to postorder drops the parentheses and puts the other tokens into a new order.
It adds none and loses none, whatever sequence it is given: operators in a row, operands side by
side, groups with nothing in them.

Between two tokens of the input, all that was read is somewhere: it has its final place, or it
waits in the innermost open group or in a group around it (`State.tokens`).  Reading a token
adds just this token (`perm_tokens_read`).  At the end no group is open and everything that
waits is placed.  Together with the condition for a failure this gives the whole outcome of a
conversion (`unbalanced_or_rearranges`).
-/
import Mathlib.Data.List.Basic
import TruthTable.Proofs.Balance

namespace TruthTable

/-- The tokens of a sequence, without the parentheses. -/
def Token.withoutParens (ts : List Token) : List Token := ts.filter (!isParen ·)

namespace Token

lemma isParen_eq_false_of_mem {t : Token} {ts : List Token} (h : t ∈ withoutParens ts) :
    t.isParen = false := by
  simpa using (List.mem_filter.1 h).2

/-- Every token that is missing is a parenthesis. -/
lemma length_withoutParens (ts : List Token) :
    (withoutParens ts).length + (ts.count .leftParen + ts.count .rightParen) = ts.length := by
  induction ts with
  | nil => rfl
  | cons t ts ih =>
    cases t <;> simp [withoutParens, isParen] at ih ⊢ <;> omega

end Token

namespace Postorder

open Token (Unbalanced withoutParens)
open scoped List

/-! ## One token -/

/-- All tokens that were read, parentheses apart: those in their final place and those that
wait. -/
def State.tokens (s : State) : List Token :=
  s.placed ++ (s.waiting ++ s.enclosing.flatten).map .connective

/-- What is placed does not wait any longer, and that is all that changes. -/
lemma perm_place_append (ops : List Connective) (placed ts : List Token) :
    (place ops placed ++ ts).Perm (placed ++ (ops.map .connective ++ ts)) := by
  have hplace : (place ops placed).Perm (placed ++ ops.map .connective) :=
    ((List.reverse_perm _).append_right placed).trans List.perm_append_comm
  simpa using hplace.append_right ts

lemma perm_tokens_operator (s : State) (op : Connective) :
    (s.operator op).tokens.Perm (.connective op :: s.tokens) := by
  rw [State.operator]
  split
  · simp [State.tokens]
  · -- the operators that are released come out of the waiting ones
    dsimp only [State.tokens]
    refine (perm_place_append _ _ _).trans ?_
    rw [List.cons_append, List.map_cons]
    refine (List.Perm.append_left _ List.perm_middle).trans (List.perm_middle.trans ?_)
    rw [← List.map_append, ← List.append_assoc, List.takeWhile_append_dropWhile]

/-- A token that is read is added to those that were read before. -/
lemma perm_tokens_read {s s' : State} {t : Token} (h : s.read t = some s') :
    s'.tokens.Perm (withoutParens [t] ++ s.tokens) := by
  match t with
  | .letter c =>
    obtain rfl := Option.some.inj h
    exact .refl _
  | .connective op =>
    obtain rfl := Option.some.inj h
    exact perm_tokens_operator s op
  | .leftParen =>
    obtain rfl := Option.some.inj h
    exact .refl _
  | .rightParen =>
    obtain ⟨placed, waiting, enclosing⟩ := s
    cases enclosing with
    | nil => simp [State.read] at h
    | cons outer enclosing =>
      obtain rfl := Option.some.inj h
      simpa [State.tokens, withoutParens, Token.isParen] using
        perm_place_append waiting placed ((outer ++ enclosing.flatten).map .connective)

/-! ## A run -/

lemma perm_tokens_foldlM_read {s s' : State} {ts : List Token}
    (h : ts.foldlM State.read s = some s') :
    s'.tokens.Perm (withoutParens ts ++ s.tokens) := by
  induction ts generalizing s with
  | nil =>
    obtain rfl : s = s' := by simpa using h
    exact .refl _
  | cons t ts ih =>
    obtain ⟨s₁, hread, hrun⟩ := foldlM_read_cons_eq_some_iff.1 h
    have hsplit : withoutParens (t :: ts) = withoutParens [t] ++ withoutParens ts := by
      rw [withoutParens, ← List.singleton_append, List.filter_append]
      rfl
    calc s'.tokens
      _ ~ withoutParens ts ++ s₁.tokens := ih hrun
      _ ~ withoutParens ts ++ (withoutParens [t] ++ s.tokens) :=
        (perm_tokens_read hread).append_left _
      _ ~ withoutParens [t] ++ (withoutParens ts ++ s.tokens) := List.perm_append_comm_assoc _ _ _
      _ = withoutParens (t :: ts) ++ s.tokens := by rw [hsplit, List.append_assoc]

/-- **The conversion only moves tokens**, parentheses apart. -/
lemma perm_ofTokens {ts ps : List Token} (h : ofTokens ts = .ok ps) :
    ps.Perm (withoutParens ts) := by
  obtain ⟨s, hrun, hgroups, rfl⟩ := ofTokens_eq_ok_iff.1 h
  have hplace : (place s.waiting s.placed).Perm s.tokens := by
    simpa [State.tokens, hgroups] using perm_place_append s.waiting s.placed []
  have hall : s.tokens.Perm (withoutParens ts) := by
    simpa [State.tokens] using perm_tokens_foldlM_read hrun
  exact (List.reverse_perm _).trans (hplace.trans hall)

/-! ## The outcome of a conversion -/

/-- The sequence `ps` has the tokens of `ts` in another order. -/
structure Rearranges (ts ps : List Token) : Prop where
  no_parens : ∀ t ∈ ps, t.isParen = false
  /-- Nothing is lost, and nothing is there twice. -/
  perm : ps.Perm (withoutParens ts)
  length : ps.length = ts.length - (ts.count .leftParen + ts.count .rightParen)
  /-- The letters keep their order. -/
  letters : ps.filterMap Token.letter? = ts.filterMap Token.letter?

lemma rearranges_of_ofTokens {ts ps : List Token} (h : ofTokens ts = .ok ps) :
    Rearranges ts ps where
  no_parens _ ht := Token.isParen_eq_false_of_mem ((perm_ofTokens h).subset ht)
  perm := perm_ofTokens h
  length := by
    have hlength := Token.length_withoutParens ts
    rw [(perm_ofTokens h).length_eq]
    omega
  letters := filterMap_letter?_ofTokens h

/-- **The outcome of every conversion.**  It fails if the parentheses do not match, and only
then.  Otherwise the tokens are rearranged. -/
theorem unbalanced_or_rearranges (ts : List Token) :
    (ofTokens ts = .error .unbalancedParentheses ∧ Unbalanced ts) ∨
      (∃ ps, ofTokens ts = .ok ps ∧ Rearranges ts ps) ∧ ¬Unbalanced ts := by
  by_cases hts : Unbalanced ts
  · exact .inl ⟨ofTokens_eq_error_iff.2 ⟨rfl, hts⟩, hts⟩
  · obtain ⟨ps, hps⟩ := exists_ofTokens_eq_ok_iff.2 hts
    exact .inr ⟨⟨ps, hps, rearranges_of_ofTokens hps⟩, hts⟩

-- operators in a row, operands side by side and an empty group
example :
    ofTokens [.connective (.binary .and), .letter 'B', .letter 'A', .leftParen, .rightParen,
        .connective (.binary .or), .connective (.binary .iff)] =
      .ok [.letter 'B', .letter 'A', .connective (.binary .and), .connective (.binary .or),
        .connective (.binary .iff)] := by decide

end Postorder

end TruthTable
