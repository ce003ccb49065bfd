/-
# Parentheses and the conversion

The conversion to postorder gives up on a sequence if and only if its parentheses do not
match (`Postorder.ofTokens_eq_error_iff`), whatever else stands between them.

All that the conversion knows of the parentheses is the number of groups that are open.
Every token that is read changes it by the number of parentheses that the token opens or
closes, and reading fails only where no group is left to close.
-/
import Mathlib.Data.List.Basic
import TruthTable.Proofs.Conversion

namespace TruthTable

/-- The parentheses do not match: some beginning of the sequence closes more groups than it
opens, or the numbers of opening and closing parentheses differ. -/
def Token.Unbalanced (ts : List Token) : Prop :=
  (∃ us, us <+: ts ∧ us.count .leftParen < us.count .rightParen) ∨
    ts.count .leftParen ≠ ts.count .rightParen

namespace Postorder

open Token (Unbalanced)

/-! ## One token -/

lemma read_eq_none_iff {s : State} {t : Token} :
    s.read t = none ↔ t = .rightParen ∧ s.enclosing = [] := by
  match t with
  | .letter _ | .connective _ | .leftParen => simp [State.read]
  | .rightParen => cases hgroups : s.enclosing <;> simp [State.read, hgroups]

/-- The groups that were open and those that a token opens are closed by it or remain open. -/
lemma length_enclosing_read {s s' : State} {t : Token} (h : s.read t = some s') :
    s'.enclosing.length + [t].count .rightParen = s.enclosing.length + [t].count .leftParen := by
  match t with
  | .letter c =>
    obtain rfl := Option.some.inj h
    simp
  | .connective op =>
    obtain rfl := Option.some.inj h
    rw [State.operator]
    split <;> simp
  | .leftParen =>
    obtain rfl := Option.some.inj h
    simp
  | .rightParen =>
    obtain ⟨placed, waiting, enclosing⟩ := s
    cases enclosing with
    | nil => simp [State.read] at h
    | cons outer enclosing =>
      obtain rfl := Option.some.inj h
      simp

/-! ## A run -/

lemma count_cons (u t : Token) (ts : List Token) :
    (t :: ts).count u = [t].count u + ts.count u := by
  rw [← List.count_append, List.singleton_append]

lemma length_enclosing_foldlM_read {s s' : State} {ts : List Token}
    (h : ts.foldlM State.read s = some s') :
    s'.enclosing.length + ts.count .rightParen = s.enclosing.length + ts.count .leftParen := by
  induction ts generalizing s with
  | nil =>
    obtain rfl : s = s' := by simpa using h
    rfl
  | cons t ts ih =>
    obtain ⟨s₁, hread, hrun⟩ := foldlM_read_cons_eq_some_iff.1 h
    have hfirst := length_enclosing_read hread
    have hrest := ih hrun
    rw [count_cons .leftParen t ts, count_cons .rightParen t ts]
    omega

/-- A run fails where some beginning of the sequence closes more groups than are open at the
start or opened in it. -/
lemma foldlM_read_eq_none_iff {s : State} {ts : List Token} :
    ts.foldlM State.read s = none ↔
      ∃ us, us <+: ts ∧ s.enclosing.length + us.count .leftParen < us.count .rightParen := by
  induction ts generalizing s with
  | nil => simp
  | cons t ts ih =>
    rw [List.foldlM_cons]
    cases hread : s.read t with
    | none =>
      obtain ⟨rfl, hgroups⟩ := read_eq_none_iff.1 hread
      exact iff_of_true rfl ⟨[.rightParen], by simp, by simp [hgroups]⟩
    | some s₁ =>
      have hfirst := length_enclosing_read hread
      rw [Option.bind_eq_bind, Option.bind_some, ih]
      constructor
      · rintro ⟨us, hus, hcount⟩
        refine ⟨t :: us, List.cons_prefix_cons.2 ⟨rfl, hus⟩, ?_⟩
        rw [count_cons .leftParen t us, count_cons .rightParen t us]
        omega
      · rintro ⟨us, hus, hcount⟩
        rcases List.prefix_cons_iff.1 hus with rfl | ⟨us', rfl, hus'⟩
        · simp at hcount
        · rw [count_cons .leftParen t us', count_cons .rightParen t us'] at hcount
          exact ⟨us', hus', by omega⟩

/-! ## The conversion -/

/-- **The conversion fails on unbalanced parentheses and on nothing else.** -/
lemma ofTokens_eq_error_iff {ts : List Token} {e : FormulaError} :
    ofTokens ts = .error e ↔ e = .unbalancedParentheses ∧ Unbalanced ts := by
  have hnone : ofTokens? ts = none ↔ Unbalanced ts := by
    rw [ofTokens?, Unbalanced]
    cases hrun : ts.foldlM State.read {} with
    | none =>
      have hprefix := foldlM_read_eq_none_iff.1 hrun
      exact iff_of_true rfl (.inl (by simpa using hprefix))
    | some s =>
      have hlength : s.enclosing.length + ts.count .rightParen = ts.count .leftParen := by
        simpa using length_enclosing_foldlM_read hrun
      have hprefix : ¬∃ us, us <+: ts ∧ us.count .leftParen < us.count .rightParen := by
        intro hprefix
        have hfail : ts.foldlM State.read {} = none :=
          foldlM_read_eq_none_iff.2 (by simpa using hprefix)
        simp [hrun] at hfail
      have hclosed : s.enclosing = [] ↔ ts.count .leftParen = ts.count .rightParen := by
        rw [← List.length_eq_zero_iff]
        omega
      rw [or_iff_right hprefix, Ne, ← hclosed]
      simp [State.finish]
  rw [← hnone, ofTokens]
  cases ofTokens? ts <;> simp [eq_comm]

/-- A sequence is converted if its parentheses match. -/
lemma exists_ofTokens_eq_ok_iff {ts : List Token} :
    (∃ ps, ofTokens ts = .ok ps) ↔ ¬Unbalanced ts := by
  cases hconv : ofTokens ts with
  | error e => simp [(ofTokens_eq_error_iff.1 hconv).2]
  | ok ps =>
    have hbalanced : ¬Unbalanced ts := by
      intro hts
      have herror := ofTokens_eq_error_iff.2 ⟨rfl, hts⟩
      simp [hconv] at herror
    simp [hbalanced]

end Postorder

end TruthTable
