/-
# What a fold does, call by call

A sequence in postorder is folded with a step function that may do more than compute a value: it
may list labels, or fill a row.  So it matters how often it is called, and in which order.  This
file compares the fold of a sequence with the recursion over the formula that the sequence stands
for, down to the single call.

To see the calls one folds with a step function that also writes them down.  This changes nothing
else (`Postorder.map_fst_foldFrom_recording`).  The calls of the recursion over a formula are a walk
through it, with one call for each node (`Formula.Walk`, `Formula.exists_walk`).

The fold of any other sequence stops at the first token that cannot be folded, or at the end with
the wrong number of operands.  Which of these it is can be found by counting (`Postorder.misfit?`);
the calls up to there have been made (`Postorder.exists_run_fold_recording`).
-/
import TruthTable.Proofs.Evaluation
import TruthTable.Proofs.Postorder

namespace TruthTable

namespace Postorder

/-! ## Calls -/

/-- A call of a step function, and what it returned. -/
structure Call (α : Type) where
  step : Step α
  result : α

/-- The token that a step is taken for. -/
def Step.token {α : Type} : Step α → Token
  | .letter c => .letter c
  | .unary op _ => .connective op
  | .binary op _ _ => .connective op

/-- The tokens that the calls were made for. -/
def Call.tokens {α : Type} (calls : List (Call α)) : List Token :=
  calls.map fun call => call.step.token

section

variable {m : Type → Type} [Monad m] {α : Type}

/-- The step function that also writes down its calls, the latest one last. -/
def recording (step : Step α → m α) (x : Step α) : StateT (List (Call α)) m α := do
  let r ← step x
  modify (· ++ [⟨x, r⟩])
  pure r

variable [LawfulMonad m] (step : Step α → m α)

lemma run_recording (x : Step α) (before : List (Call α)) :
    (recording step x).run before = (fun r => (r, before ++ [⟨x, r⟩])) <$> step x := by
  simp [recording]

/-- Writing down the calls changes nothing else. -/
lemma map_fst_foldFrom_recording (stack : List α) (ps : List Token) (before : List (Call α)) :
    Prod.fst <$> (foldFrom (recording step) stack ps).run before = foldFrom step stack ps := by
  induction ps generalizing stack before with
  | nil => simp [foldFrom]
  | cons t ps ih =>
    cases t with
    | letter c => simp [foldFrom, run_recording, ih]
    | leftParen | rightParen => simp [foldFrom]
    | connective op =>
      cases op with
      | not => cases stack <;> simp [foldFrom, run_recording, ih]
      | binary op =>
        rcases stack with _ | ⟨b, _ | ⟨a, stack⟩⟩ <;> simp [foldFrom, run_recording, ih]

end

/-! ## The calls of a fold -/

section

variable {σ α : Type} (step : Step α → StateM σ α)

/-- A call is made and written down, and then the work goes on with its result. -/
lemma exists_run_recording_bind (x : Step α) (before : List (Call α)) (s : σ) :
    ∃ r s', ∀ {β : Type} (next : α → StateT (List (Call α)) (StateM σ) β),
      ((recording step x >>= next).run before).run s =
        ((next r).run (before ++ [⟨x, r⟩])).run s' := by
  refine ⟨((step x).run s).1, ((step x).run s).2, fun next => ?_⟩
  rw [StateT.run_bind, run_recording]
  rfl

/-- From this stack the tokens are folded with one call for each of them, and then the fold goes on
with `k` operands. -/
def RunsTo (stack : List α) (us : List Token) (k : ℕ) : Prop :=
  ∀ (before : List (Call α)) (s : σ), ∃ stack' calls s', stack'.length = k ∧
    Call.tokens calls = us ∧ ∀ vs,
      ((foldFrom (recording step) stack (us ++ vs)).run before).run s =
        ((foldFrom (recording step) stack' vs).run (before ++ calls)).run s'

variable {step}

/-- A token comes first whose operands are taken off the stack and whose result is put there. -/
lemma RunsTo.cons (x : Step α) {stack rest : List α} {us : List Token} {k : ℕ}
    (hx : ∀ ps, foldFrom (recording step) stack (x.token :: ps) =
      recording step x >>= fun r => foldFrom (recording step) (r :: rest) ps)
    (h : ∀ r, RunsTo step (r :: rest) us k) : RunsTo step stack (x.token :: us) k := by
  intro before s
  obtain ⟨r, s₁, hr⟩ := exists_run_recording_bind step x before s
  obtain ⟨stack', calls, s', hstack', rfl, hrun⟩ := h r (before ++ [⟨x, r⟩]) s₁
  refine ⟨stack', ⟨x, r⟩ :: calls, s', hstack', rfl, fun vs => ?_⟩
  rw [List.cons_append, hx, hr, hrun, ← List.append_cons]

variable (step)

/-- Tokens that find their operands are folded with one call for each of them. -/
lemma runsTo_of_folds {n k : ℕ} {us : List Token} (h : Folds n us k) {stack : List α}
    (hstack : stack.length = n) : RunsTo step stack us k := by
  induction h generalizing stack with
  | nil => exact fun before s => ⟨stack, [], s, hstack, rfl, fun vs => by simp⟩
  | letter c _ ih =>
    exact .cons (.letter c) (fun _ => rfl) fun r => ih (congrArg (· + 1) hstack)
  | not _ ih =>
    obtain ⟨a, rest, rfl⟩ := List.exists_cons_of_length_eq_add_one hstack
    exact .cons (.unary .not a) (fun _ => rfl) fun r => ih hstack
  | binary op _ ih =>
    -- the right operand was folded last, so it lies on top
    obtain ⟨b, stack, rfl⟩ := List.exists_cons_of_length_eq_add_one hstack
    obtain ⟨a, rest, rfl⟩ := List.exists_cons_of_length_eq_add_one (Nat.succ.inj hstack)
    exact .cons (.binary (.binary op) a b) (fun _ => rfl) fun r => ih (Nat.succ.inj hstack)

end

/-! ## Misfits -/

/-- What is wrong with so many operands at the end, if anything is. -/
def Misfit.ofCount? : ℕ → Option Misfit
  | 0 => some .missingOperand
  | 1 => none
  | count + 2 => some (.leftOver (count + 1))

/-- Why a sequence is not the postorder of a formula, if it is not: its first token that cannot be
folded, or the number of operands at the end. -/
def misfit? (ps : List Token) : Option Misfit :=
  match ps[stop ps]? with
  | some t => some (.ofStuck t)
  | none => Misfit.ofCount? (operandCount ps)

lemma misfit?_of_folds {us : List Token} {k : ℕ} (h : Folds 0 us k) :
    misfit? us = Misfit.ofCount? k := by
  have hstop : stop (us ++ []) = us.length := stop_append h (by simp)
  rw [List.append_nil] at hstop
  rw [misfit?, hstop, List.getElem?_eq_none (Nat.le_refl _), h.operandCount_eq]

lemma misfit?_append_cons {us vs : List Token} {t : Token} {k : ℕ} (h : Folds 0 us k)
    (ht : isStuck k t = true) : misfit? (us ++ t :: vs) = some (.ofStuck t) := by
  have hstop : stop (us ++ t :: vs) = us.length := stop_append h (by simpa using ht)
  rw [misfit?, hstop, List.getElem?_append_right (Nat.le_refl _), Nat.sub_self]
  rfl

/-- The fold of any sequence ends in a value, or in the misfit that is found by counting.  There was
one call for each token in front of the first that cannot be folded. -/
lemma exists_run_fold_recording {σ α : Type} (step : Step α → StateM σ α) (ps : List Token)
    (s : σ) :
    ∃ result calls s', ((fold (recording step) ps).run []).run s = ((result, calls), s') ∧
      Call.tokens calls = ps.take (stop ps) ∧
      ((∃ a, result = .ok a ∧ misfit? ps = none) ∨
        ∃ e, result = .error e ∧ misfit? ps = some e) := by
  obtain ⟨us, vs, k, rfl, hus, hvs⟩ := exists_folds ps 0
  obtain ⟨stack, calls, s', rfl, htokens, hrun⟩ :=
    runsTo_of_folds step hus (List.length_nil (α := α)) [] s
  have htake : Call.tokens calls = (us ++ vs).take (stop (us ++ vs)) := by
    rw [stop_append hus hvs, List.take_left, htokens]
  rw [fold, hrun, List.nil_append]
  cases vs with
  | nil =>
    rw [List.append_nil] at htake ⊢
    rw [misfit?_of_folds hus]
    rcases stack with _ | ⟨a, _ | ⟨b, rest⟩⟩
    · exact ⟨_, calls, s', rfl, htake, .inr ⟨_, rfl, rfl⟩⟩
    · exact ⟨_, calls, s', rfl, htake, .inl ⟨a, rfl, rfl⟩⟩
    · exact ⟨_, calls, s', rfl, htake, .inr ⟨_, rfl, rfl⟩⟩
  | cons t vs =>
    have ht : isStuck stack.length t = true := hvs t rfl
    rw [foldFrom_of_isStuck _ ht, misfit?_append_cons hus ht]
    exact ⟨_, calls, s', rfl, htake, .inr ⟨_, rfl, rfl⟩⟩

end Postorder

namespace Formula

open Postorder

/-! ## Walks -/

/-- These calls walk through a formula, and the last one returns this result.  There is one call for
each node: it comes after the calls for the operands, those for the left one first, and is given
their results in this order. -/
inductive Walk {α : Type} : Formula → List (Call α) → α → Prop
  | letter (c : Char) (r : α) : Walk (.letter c) [⟨.letter c, r⟩] r
  | not {f : Formula} {calls : List (Call α)} {a : α} (r : α) :
      Walk f calls a → Walk (.not f) (calls ++ [⟨.unary .not a, r⟩]) r
  | binary {f g : Formula} {left right : List (Call α)} {a b : α} (op : BinaryConnective) (r : α) :
      Walk f left a → Walk g right b →
        Walk (.binary op f g) (left ++ right ++ [⟨.binary (.binary op) a b, r⟩]) r

/-- The fold of a formula walks through it, and then the work goes on with the result. -/
lemma exists_walk {σ α : Type} (step : Step α → StateM σ α) (f : Formula)
    (before : List (Call α)) (s : σ) :
    ∃ calls a s', f.Walk calls a ∧
      ∀ {β : Type} (next : α → StateT (List (Call α)) (StateM σ) β),
        ((f.foldM (recording step) >>= next).run before).run s =
          ((next a).run (before ++ calls)).run s' := by
  induction f generalizing before s with
  | letter c =>
    obtain ⟨r, s', hr⟩ := exists_run_recording_bind step (.letter c) before s
    exact ⟨_, r, s', .letter c r, hr⟩
  | not f ih =>
    obtain ⟨calls, a, s₁, hwalk, hf⟩ := ih before s
    obtain ⟨r, s', hr⟩ := exists_run_recording_bind step (.unary .not a) (before ++ calls) s₁
    refine ⟨_, r, s', hwalk.not r, fun next => ?_⟩
    rw [foldM, bind_assoc, hf, hr, List.append_assoc]
  | binary op f g ihf ihg =>
    obtain ⟨left, a, s₁, hleft, hf⟩ := ihf before s
    obtain ⟨right, b, s₂, hright, hg⟩ := ihg (before ++ left) s₁
    obtain ⟨r, s', hr⟩ :=
      exists_run_recording_bind step (.binary (.binary op) a b) (before ++ left ++ right) s₂
    refine ⟨_, r, s', hleft.binary op r hright, fun next => ?_⟩
    rw [foldM, bind_assoc, hf, bind_assoc, hg, hr]
    simp only [List.append_assoc]

/-- The calls of a walk are made for the tokens in postorder. -/
lemma Walk.tokens_eq {α : Type} {f : Formula} {calls : List (Call α)} {a : α}
    (h : f.Walk calls a) : Call.tokens calls = f.postorder := by
  induction h with
  | letter c r => rfl
  | not r _ ih => simp [Call.tokens, Step.token, postorder, ← ih]
  | binary op r _ _ ihf ihg => simp [Call.tokens, Step.token, postorder, ← ihf, ← ihg]

lemma postorder_ne_nil (f : Formula) : f.postorder ≠ [] := by
  cases f <;> simp [postorder]

lemma isParen_of_mem_postorder {f : Formula} {t : Token} (h : t ∈ f.postorder) :
    t.isParen = false := by
  induction f with
  | letter c => simp_all [postorder, Token.isParen]
  | not f ih =>
    simp only [postorder, List.mem_append, List.mem_singleton] at h
    rcases h with h | rfl
    · exact ih h
    · rfl
  | binary op f g ihf ihg =>
    simp only [postorder, List.mem_append, List.mem_singleton] at h
    rcases h with (h | h) | rfl
    · exact ihf h
    · exact ihg h
    · rfl

end Formula

namespace Postorder

/-! ## Folds with a state -/

section

variable {σ α : Type} {step : Step α → StateM σ α} {ps : List Token} {s s' : σ}
  {result : Except Misfit α} {calls : List (Call α)}

lemma run_fold_of_recording
    (h : ((fold (recording step) ps).run []).run s = ((result, calls), s')) :
    (fold step ps).run s = (result, s') := by
  rw [fold] at h ⊢
  rw [← map_fst_foldFrom_recording step [] ps [], StateT.run_map, h]
  rfl

/-- The fold of the postorder of a formula makes calls that walk through the formula. -/
lemma exists_walk_of_postorder (step : Step α → StateM σ α) (f : Formula) (s : σ) :
    ∃ a s' calls, ((fold (recording step) f.postorder).run []).run s = ((.ok a, calls), s') ∧
      f.Walk calls a := by
  obtain ⟨calls, a, s', hwalk, hrun⟩ := f.exists_walk step [] s
  have happend := foldFrom_postorder_append (recording step) f [] []
  rw [List.append_nil] at happend
  exact ⟨a, s', calls, by rw [fold, happend, hrun]; rfl, hwalk⟩

/-- The recursion over a formula gives what the fold of its postorder gives. -/
lemma run_foldM_of_run_fold {f : Formula} {a : α}
    (h : (fold step f.postorder).run s = (.ok a, s')) : (f.foldM step).run s = (a, s') := by
  rw [fold_postorder, StateT.run_map] at h
  obtain ⟨hvalue, hstate⟩ := Prod.mk.inj h
  exact Prod.ext (Except.ok.inj hvalue) hstate

/-- The postorder of a formula is folded to a value, and nothing else is. -/
lemma run_fold_succeeds_iff :
    (∃ a, ((fold step ps).run s).1 = .ok a) ↔ ∃ f : Formula, ps = f.postorder := by
  constructor
  · rintro ⟨a, ha⟩
    rcases postorder_or_misfit ps with hf | ⟨e, he⟩
    · exact hf
    · obtain ⟨before, hfold⟩ := he step [] rfl
      rw [fold, hfold, StateT.run_bind] at ha
      exact absurd ha (by simp)
  · rintro ⟨f, rfl⟩
    obtain ⟨a, s', calls, hrecording, -⟩ := exists_walk_of_postorder step f s
    exact ⟨a, by rw [run_fold_of_recording hrecording]⟩

lemma run_fold_eq_error_iff {e : Misfit} :
    ((fold step ps).run s).1 = .error e ↔ misfit? ps = some e := by
  obtain ⟨result, calls, s', hrecording, -, hresult⟩ := exists_run_fold_recording step ps s
  rw [run_fold_of_recording hrecording]
  rcases hresult with ⟨a, rfl, hnone⟩ | ⟨e', rfl, hsome⟩
  · simp [hnone]
  · simp [hsome]

/-- Every misfit is a malformed formula. -/
lemma mapError_failure_eq_malformed_iff :
    result.mapError Misfit.failure = .error (.error .malformed) ↔ ¬∃ a, result = .ok a := by
  cases result <;> simp [Except.mapError, Misfit.failure]

end

/-- What the fold of a sequence does from the state `s`, with a step function that keeps a state. -/
structure FollowsFormula {σ α : Type} (step : Step α → StateM σ α) (ps : List Token) (s : σ) :
    Prop where
  succeeds_iff : (∃ a, ((fold step ps).run s).1 = .ok a) ↔ ∃ f : Formula, ps = f.postorder
  unique : ∀ f g : Formula, ps = f.postorder → ps = g.postorder → f = g
  /-- The fold of the postorder of a formula is the fold of the formula, with the same value and the
  same state in the end.  The calls of the step function walk through the formula, one for each
  token. -/
  walk : ∀ f : Formula, ps = f.postorder → ∃ a s' calls, (f.foldM step).run s = (a, s') ∧
    (fold step ps).run s = (.ok a, s') ∧
    ((fold (recording step) ps).run []).run s = ((.ok a, calls), s') ∧
    f.Walk calls a ∧ Call.tokens calls = ps
  malformed_iff : ((fold step ps).run s).1.mapError Misfit.failure = .error (.error .malformed) ↔
    ∀ f : Formula, ps ≠ f.postorder
  /-- The misfit is the one that is found by counting. -/
  misfit_iff : ∀ e, ((fold step ps).run s).1 = .error e ↔ misfit? ps = some e
  /-- A parenthesis anywhere is a misfit, and so is the lack of any token. -/
  ne_postorder : ps = [] ∨ (∃ t ∈ ps, t.isParen = true) → ∀ f : Formula, ps ≠ f.postorder
  /-- Whatever the sequence is, there is one call for each token in front of the first that cannot
  be folded, in the order of the tokens. -/
  tokens : ∃ result calls s', (fold step ps).run s = (result, s') ∧
    ((fold (recording step) ps).run []).run s = ((result, calls), s') ∧
    Call.tokens calls = ps.take (stop ps)

/-- **The fold of a sequence is the fold of the one formula that it stands for**, with one call of
the step function for each node; and any other sequence is malformed. -/
theorem fold_followsFormula {σ α : Type} (step : Step α → StateM σ α) (ps : List Token) (s : σ) :
    FollowsFormula step ps s where
  succeeds_iff := run_fold_succeeds_iff
  unique := by
    rintro f g rfl hg
    exact Formula.postorder_injective hg
  walk := by
    rintro f rfl
    obtain ⟨a, s', calls, hrecording, hwalk⟩ := exists_walk_of_postorder step f s
    have hfold := run_fold_of_recording hrecording
    exact ⟨a, s', calls, run_foldM_of_run_fold hfold, hfold, hrecording, hwalk, hwalk.tokens_eq⟩
  malformed_iff := by
    rw [mapError_failure_eq_malformed_iff, run_fold_succeeds_iff, not_exists]
  misfit_iff _ := run_fold_eq_error_iff
  ne_postorder := by
    rintro (rfl | ⟨t, ht, hparen⟩) f hf
    · exact f.postorder_ne_nil hf.symm
    · rw [hf] at ht
      simp [Formula.isParen_of_mem_postorder ht] at hparen
  tokens := by
    obtain ⟨result, calls, s', hrecording, htokens, -⟩ := exists_run_fold_recording step ps s
    exact ⟨result, calls, s', run_fold_of_recording hrecording, hrecording, htokens⟩

/-- `A&` and `~` lack an operand, `AB` has one left over, and `A(` has a parenthesis. -/
example :
    misfit? [.letter 'A', .connective (.binary .and)] = some .missingOperand ∧
      misfit? [.connective .not] = some .missingOperand ∧
      misfit? [.letter 'A', .letter 'B'] = some (.leftOver 1) ∧
      misfit? [.letter 'A', .leftParen] = some .parenthesis := by
  decide

end Postorder

end TruthTable
