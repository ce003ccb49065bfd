/-
# The outcome of an evaluation

Any sequence of tokens can be evaluated under any assignment, and two things can end this early: a
letter without a value, and a token that cannot be folded.  Whichever comes first decides the
outcome.  This file finds the place where the fold stops without running it, by counting operands:
a letter adds one, a negation puts one in the place of one, and any other connective one in the
place of two (`Postorder.operandCount`, `Postorder.stop`).

`Postorder.Folds n us m` says that the tokens `us` find their operands on a stack of `n` and leave
`m` there.  Every sequence is split into such tokens and a rest that begins with a token that is
stuck (`Postorder.exists_folds`).  The first part is run to its end, or to its first letter without
a value (`Row.run_foldFrom_append`), and behind it the fold is over.
-/
import Mathlib.Data.List.Basic
import TruthTable.Row

namespace TruthTable

namespace Postorder

/-! ## Counting operands -/

/-- The operands that are left after these tokens, provided that all of them could be folded. -/
def operandCount (ps : List Token) : ℕ :=
  ps.countP (·.kind == .letter) - ps.countP (·.kind == .binary)

/-- Whether a token cannot be folded when so many operands are there: it is a parenthesis, or it
takes more of them. -/
def isStuck (count : ℕ) : Token → Bool
  | .letter _ => false
  | .connective op => count < op.arity
  | .leftParen | .rightParen => true

/-- The position of the first token that cannot be folded, or the length of the sequence if there
is none. -/
def stop (ps : List Token) : ℕ :=
  (List.range ps.length).findIdx fun i => ps[i]?.any (isStuck (operandCount (ps.take i)))

@[simp] lemma isStuck_letter (count : ℕ) (c : Char) : isStuck count (.letter c) = false := rfl

@[simp] lemma isStuck_not (count : ℕ) :
    isStuck count (.connective .not) = decide (count < 1) := rfl

@[simp] lemma isStuck_binary (count : ℕ) (op : BinaryConnective) :
    isStuck count (.connective (.binary op)) = decide (count < 2) := rfl

@[simp] lemma isStuck_leftParen (count : ℕ) : isStuck count .leftParen = true := rfl

@[simp] lemma isStuck_rightParen (count : ℕ) : isStuck count .rightParen = true := rfl

/-- Folding these tokens on `n` operands leaves `m` operands. -/
inductive Folds : ℕ → List Token → ℕ → Prop
  | nil {n : ℕ} : Folds n [] n
  | letter {n m : ℕ} {us : List Token} (c : Char) : Folds (n + 1) us m → Folds n (.letter c :: us) m
  | not {n m : ℕ} {us : List Token} :
      Folds (n + 1) us m → Folds (n + 1) (.connective .not :: us) m
  | binary {n m : ℕ} {us : List Token} (op : BinaryConnective) :
      Folds (n + 1) us m → Folds (n + 2) (.connective (.binary op) :: us) m

section

variable {n m : ℕ} {us vs : List Token}

/-- Letters add operands, and binary connectives take them away. -/
lemma Folds.add_countP (h : Folds n us m) :
    n + us.countP (·.kind == .letter) = m + us.countP (·.kind == .binary) := by
  induction h with
  | nil => simp
  | letter c _ ih => simp [Token.kind] at ih ⊢; omega
  | not _ ih => simpa [Token.kind, List.countP_cons] using ih
  | binary op _ ih => simp [Token.kind] at ih ⊢; omega

lemma Folds.operandCount_eq (h : Folds 0 us m) : operandCount us = m := by
  have hcount := h.add_countP
  rw [operandCount]
  omega

/-- No token of a part that can be folded is stuck. -/
lemma Folds.isStuck_eq_false {t : Token} (h : Folds n (us ++ t :: vs) m) :
    ∃ k, Folds n us k ∧ isStuck k t = false := by
  induction us generalizing n with
  | nil =>
    refine ⟨n, .nil, ?_⟩
    cases h <;> simp
  | cons u us ih =>
    cases h with
    | letter c h =>
      obtain ⟨k, hk, ht⟩ := ih h
      exact ⟨k, .letter c hk, ht⟩
    | not h =>
      obtain ⟨k, hk, ht⟩ := ih h
      exact ⟨k, .not hk, ht⟩
    | binary op h =>
      obtain ⟨k, hk, ht⟩ := ih h
      exact ⟨k, .binary op hk, ht⟩

/-- Every sequence can be folded up to a token that is stuck. -/
lemma exists_folds (ps : List Token) (n : ℕ) :
    ∃ us vs m, ps = us ++ vs ∧ Folds n us m ∧ ∀ t ∈ vs.head?, isStuck m t = true := by
  induction ps generalizing n with
  | nil => exact ⟨[], [], n, rfl, .nil, by simp⟩
  | cons t ps ih =>
    match t, n with
    | .letter c, n =>
      obtain ⟨us, vs, m, rfl, hus, hvs⟩ := ih (n + 1)
      exact ⟨_, vs, m, rfl, hus.letter c, hvs⟩
    | .connective .not, n + 1 =>
      obtain ⟨us, vs, m, rfl, hus, hvs⟩ := ih (n + 1)
      exact ⟨_, vs, m, rfl, hus.not, hvs⟩
    | .connective (.binary op), n + 2 =>
      obtain ⟨us, vs, m, rfl, hus, hvs⟩ := ih (n + 1)
      exact ⟨_, vs, m, rfl, hus.binary op, hvs⟩
    | .connective .not, 0 | .connective (.binary op), 0 | .connective (.binary op), 1
    | .leftParen, n | .rightParen, n => exact ⟨[], _, _, rfl, .nil, by simp⟩

/-- The fold stops behind the part that can be folded. -/
lemma stop_append (h : Folds 0 us m) (hvs : ∀ t ∈ vs.head?, isStuck m t = true) :
    stop (us ++ vs) = us.length := by
  have hbefore : ∀ i < us.length,
      (us ++ vs)[i]?.any (isStuck (operandCount ((us ++ vs).take i))) = false := by
    intro i hi
    have hsplit : us = us.take i ++ us[i] :: us.drop (i + 1) := by simp
    rw [hsplit] at h
    obtain ⟨k, hk, ht⟩ := h.isStuck_eq_false
    rw [List.getElem?_append_left hi, List.getElem?_eq_getElem hi,
      List.take_append_of_le_length (Nat.le_of_lt hi), hk.operandCount_eq, Option.any_some, ht]
  rw [stop]
  cases vs with
  | nil =>
    have hlength : us.length = (List.range (us ++ []).length).length := by simp
    rw [hlength, List.findIdx_eq_length]
    intro i hi
    exact hbefore i (by simpa using hi)
  | cons t vs =>
    rw [List.findIdx_eq (by simp)]
    refine ⟨?_, fun i hi => ?_⟩
    · simp [h.operandCount_eq, hvs t rfl]
    · rw [List.getElem_range]
      exact hbefore i hi

end

/-! ## The end of a fold -/

section

variable {m : Type → Type} [Monad m] {α : Type}

/-- What is wrong with a token that is stuck. -/
def Misfit.ofStuck (t : Token) : Misfit := if t.isParen then .parenthesis else .missingOperand

/-- At a token that is stuck the fold is over. -/
lemma foldFrom_of_isStuck (step : Step α → m α) {stack : List α} {t : Token}
    (h : isStuck stack.length t = true) (ps : List Token) :
    foldFrom step stack (t :: ps) = pure (.error (.ofStuck t)) := by
  match t, stack with
  | .connective .not, [] | .connective (.binary op), [] | .connective (.binary op), [_]
  | .leftParen, _ | .rightParen, _ => rfl
  | .letter _, _ | .connective .not, _ :: _ => simp at h
  | .connective (.binary _), _ :: _ :: _ =>
    simp only [isStuck_binary, List.length_cons, decide_eq_true_iff] at h
    omega

/-- At the end of the sequence one operand has to be left. -/
lemma foldFrom_nil (step : Step α → m α) (stack : List α) :
    (∃ a, stack.length = 1 ∧ foldFrom step stack [] = pure (.ok a)) ∨
      ∃ e, stack.length ≠ 1 ∧ foldFrom step stack [] = pure (.error e) := by
  match stack with
  | [] => exact .inr ⟨_, by simp, rfl⟩
  | [a] => exact .inl ⟨a, rfl, rfl⟩
  | _ :: _ :: _ => exact .inr ⟨_, by simp, rfl⟩

/-- Only the letters of the sequence are given to the step function. -/
lemma foldFrom_congr {step step' : Step α → m α} {ps : List Token}
    (hletter : ∀ c, .letter c ∈ ps → step (.letter c) = step' (.letter c))
    (hunary : ∀ op a, step (.unary op a) = step' (.unary op a))
    (hbinary : ∀ op a b, step (.binary op a b) = step' (.binary op a b)) (stack : List α) :
    foldFrom step stack ps = foldFrom step' stack ps := by
  induction ps generalizing stack with
  | nil => rfl
  | cons t ps ih =>
    have hrest := ih fun c hc => hletter c (List.mem_cons_of_mem t hc)
    match t, stack with
    | .letter c, stack => simp only [foldFrom, hletter c List.mem_cons_self, hrest]
    | .connective op, [] | .connective op, [_] | .connective op, _ :: _ :: _ =>
      simp only [foldFrom, hunary, hbinary, hrest]
    | .leftParen, _ | .rightParen, _ => rfl

end

end Postorder

namespace Row

open Postorder (Folds operandCount isStuck stop)

/-! ## The first letter without a value -/

/-- The first letter of a sequence that has no value. -/
def firstUnassigned? (assignment : Assignment) (ps : List Token) : Option Char :=
  (ps.filterMap Token.letter?).find? fun c => (assignment c).isNone

section

variable {assignment : Assignment} {n m : ℕ} {us : List Token}

/-- The part that can be folded is run to its end, unless a letter has no value. -/
lemma run_foldFrom_append (h : Folds n us m) {stack : List (String × Bool)}
    (hstack : stack.length = n) (row : Row) :
    (∃ c, firstUnassigned? assignment us = some c ∧ ∀ vs,
        (Postorder.foldFrom (evaluateStep assignment) stack (us ++ vs)).run row =
          .error (.unassigned c)) ∨
      firstUnassigned? assignment us = none ∧ ∃ stack' row', stack'.length = m ∧ ∀ vs,
        (Postorder.foldFrom (evaluateStep assignment) stack (us ++ vs)).run row =
          (Postorder.foldFrom (evaluateStep assignment) stack' vs).run row' := by
  induction h generalizing stack row with
  | nil => exact .inr ⟨rfl, stack, row, hstack, fun _ => rfl⟩
  | @letter n m us c _ ih =>
    cases hc : assignment c with
    | none =>
      refine .inl ⟨c, by simp [firstUnassigned?, hc], fun vs => ?_⟩
      rw [List.cons_append, Postorder.foldFrom, StateT.run_bind, evaluateStep, hc]
      rfl
    | some value =>
      have hfirst : firstUnassigned? assignment (.letter c :: us) =
          firstUnassigned? assignment us := by simp [firstUnassigned?, hc]
      have hstep : ∀ vs, (Postorder.foldFrom (evaluateStep assignment) stack
          (.letter c :: us ++ vs)).run row =
            (Postorder.foldFrom (evaluateStep assignment) ((Label.letter c, value) :: stack)
              (us ++ vs)).run (row.put (Label.letter c) value) := by
        intro vs
        rw [List.cons_append, Postorder.foldFrom, StateT.run_bind, evaluateStep, hc]
        rfl
      simp only [hfirst, hstep]
      exact ih (by simp [hstack]) _
  | @not n m us _ ih =>
    obtain ⟨⟨a, x⟩, stack, rfl⟩ := List.exists_cons_of_length_eq_add_one hstack
    exact @ih ((Label.unary .not a, !x) :: stack) hstack (row.put (Label.unary .not a) !x)
  | @binary n m us op _ ih =>
    obtain ⟨⟨b, y⟩, stack, rfl⟩ := List.exists_cons_of_length_eq_add_one hstack
    obtain ⟨⟨a, x⟩, stack, rfl⟩ := List.exists_cons_of_length_eq_add_one (Nat.succ.inj hstack)
    exact @ih ((Label.binary (.binary op) a b, op.apply x y) :: stack) (Nat.succ.inj hstack)
      (row.put (Label.binary (.binary op) a b) (op.apply x y))

end

/-! ## The outcome -/

/-- The three ways in which an evaluation ends.  They exclude each other. -/
inductive Ends (ps : List Token) (assignment : Assignment) : Except Failure Row → Prop
  | unassigned {c : Char} : firstUnassigned? assignment (ps.take (stop ps)) = some c →
      Ends ps assignment (.error (.fault (.unassigned c)))
  | malformed : firstUnassigned? assignment (ps.take (stop ps)) = none →
      stop ps < ps.length ∨ operandCount ps ≠ 1 → Ends ps assignment (.error (.error .malformed))
  | row {row : Row} : firstUnassigned? assignment (ps.take (stop ps)) = none →
      stop ps = ps.length → operandCount ps = 1 → Ends ps assignment (.ok row)

lemma ends_evaluate (ps : List Token) (assignment : Assignment) :
    Ends ps assignment (evaluate ps assignment) := by
  obtain ⟨us, vs, m, rfl, hus, hvs⟩ := Postorder.exists_folds ps 0
  have hstop : stop (us ++ vs) = us.length := Postorder.stop_append hus hvs
  have htake : (us ++ vs).take (stop (us ++ vs)) = us := by rw [hstop, List.take_left]
  have hempty : ([] : List (String × Bool)).length = 0 := rfl
  rcases run_foldFrom_append hus hempty empty with ⟨c, hc, hrun⟩ | ⟨hnone, stack, row, rfl, hrun⟩
  · rw [evaluate, Postorder.fold, hrun]
    exact .unassigned (by rw [htake, hc])
  · have hassigned : firstUnassigned? assignment ((us ++ vs).take (stop (us ++ vs))) = none := by
      rw [htake, hnone]
    rw [evaluate, Postorder.fold, hrun]
    cases vs with
    | nil =>
      have hlength : stop (us ++ []) = (us ++ []).length := by rw [hstop, List.append_nil]
      have hcount : operandCount (us ++ []) = stack.length := by
        rw [List.append_nil, hus.operandCount_eq]
      rcases Postorder.foldFrom_nil (evaluateStep assignment) stack with
        ⟨r, hone, hend⟩ | ⟨e, hone, hend⟩
      · rw [hend]
        exact .row hassigned hlength (hcount.trans hone)
      · rw [hend]
        exact .malformed hassigned (.inr (hcount.trans_ne hone))
    | cons t vs =>
      rw [Postorder.foldFrom_of_isStuck (evaluateStep assignment) (hvs t rfl)]
      exact .malformed hassigned (.inl (by rw [hstop]; simp))

/-- Letters that do not occur in the sequence make no difference. -/
lemma evaluate_congr {assignment other : Assignment} {ps : List Token}
    (h : ∀ c, .letter c ∈ ps → other c = assignment c) :
    evaluate ps other = evaluate ps assignment := by
  have hletter : ∀ c, .letter c ∈ ps →
      evaluateStep other (.letter c) = evaluateStep assignment (.letter c) := by
    intro c hc
    rw [evaluateStep, evaluateStep, h c hc]
  have hfold := Postorder.foldFrom_congr hletter (fun _ _ => rfl) (fun _ _ _ => rfl) []
  rw [evaluate, evaluate, Postorder.fold, Postorder.fold, hfold]

/-- What the evaluation of a sequence leads to.  It depends on the tokens in front of the first one
that cannot be folded. -/
structure Outcome (ps : List Token) (assignment : Assignment) (result : Except Failure Row) :
    Prop where
  /-- The first letter without a value among these tokens is the only fault.  No connective is
  applied to the wrong number of operands. -/
  fault_iff : ∀ fault, result = .error (.fault fault) ↔
    ∃ c, firstUnassigned? assignment (ps.take (stop ps)) = some c ∧ fault = .unassigned c
  /-- If all of them have values, it is an error that there are more tokens, or that any number of
  operands but one is left. -/
  error_iff : ∀ e, result = .error (.error e) ↔
    e = .malformed ∧ firstUnassigned? assignment (ps.take (stop ps)) = none ∧
      (stop ps < ps.length ∨ operandCount ps ≠ 1)
  ok_iff : (∃ row, result = .ok row) ↔
    firstUnassigned? assignment (ps.take (stop ps)) = none ∧
      stop ps = ps.length ∧ operandCount ps = 1

lemma Ends.outcome {ps : List Token} {assignment : Assignment} {result : Except Failure Row}
    (h : Ends ps assignment result) : Outcome ps assignment result := by
  cases h with
  | unassigned hc =>
    exact ⟨fun fault => by simp [hc, eq_comm], fun e => by simp [hc], by simp [hc]⟩
  | malformed hnone hend =>
    refine ⟨fun fault => by simp [hnone], fun e => ?_, iff_of_false (by simp) ?_⟩
    · rw [and_iff_left ⟨hnone, hend⟩]
      simp [eq_comm]
    · rintro ⟨-, hlength, hcount⟩
      exact hend.elim (Nat.ne_of_lt · hlength) (· hcount)
  | row hnone hlength hcount =>
    refine ⟨fun fault => iff_of_false (by simp) ?_, fun e => iff_of_false (by simp) ?_,
      iff_of_true ⟨_, rfl⟩ ⟨hnone, hlength, hcount⟩⟩
    · rintro ⟨c, hc, -⟩
      simp [hnone] at hc
    · rintro ⟨-, -, hend⟩
      exact hend.elim (Nat.ne_of_lt · hlength) (· hcount)

/-- **The outcome of every evaluation**, for any tokens and any assignment.  Neither the outcome nor
the row depends on letters that do not occur. -/
theorem evaluate_outcome (ps : List Token) (assignment : Assignment) :
    Outcome ps assignment (evaluate ps assignment) ∧
      ∀ other : Assignment, (∀ c, .letter c ∈ ps → other c = assignment c) →
        evaluate ps other = evaluate ps assignment :=
  ⟨(ends_evaluate ps assignment).outcome, fun _ => evaluate_congr⟩

/-- In `A~B&&C` the second `&` finds one operand.  The letter `B` stands in front of it and has to
have a value; `C` stands behind it, and `D` does not occur. -/
theorem evaluate_outcome_stray_and :
    let ps : List Token := [.letter 'A', .connective .not, .letter 'B',
      .connective (.binary .and), .connective (.binary .and), .letter 'C']
    let assignment (cs : List Char) : Assignment := fun c => if c ∈ cs then some true else none
    stop ps = 4 ∧ evaluate ps (assignment ['A']) = .error (.fault (.unassigned 'B')) ∧
      evaluate ps (assignment ['A', 'B']) = .error (.error .malformed) ∧
      (∀ c, .letter c ∈ ps → assignment ['A', 'D'] c = assignment ['A'] c) ∧
      evaluate ps (assignment ['A', 'D']) = evaluate ps (assignment ['A']) := by
  intro ps assignment
  have hstop : stop ps = 4 := by decide
  obtain ⟨hfault, hcongr⟩ := evaluate_outcome ps (assignment ['A'])
  obtain ⟨herror, -⟩ := evaluate_outcome ps (assignment ['A', 'B'])
  have hsame : ∀ c, .letter c ∈ ps → assignment ['A', 'D'] c = assignment ['A'] c := by
    intro c hc
    have hc : c = 'A' ∨ c = 'B' ∨ c = 'C' := by simpa [ps] using hc
    rcases hc with rfl | rfl | rfl <;> rfl
  exact ⟨hstop, (hfault.fault_iff _).2 ⟨'B', by decide, rfl⟩,
    (herror.error_iff _).2 ⟨rfl, by decide, .inl (by decide)⟩, hsame, hcongr _ hsame⟩

end Row

end TruthTable
