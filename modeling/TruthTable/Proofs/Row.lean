/-
# The row of a formula

The row of a sequence in postorder is filled by a fold that enters one value for each node
of the formula under the label of the node.  A label can be entered several times.  This
does no harm, because the label determines the subformula, and equal subformulas have the
same value: whatever was entered last is the value of the subformula with that label
(`get?_row`).

So a row is read through the columns of its formula without a fault, and the values are
those of the subformulas (`project_row`).
-/
import Mathlib.Data.List.Basic
import TruthTable.Proofs.Columns
import TruthTable.Row

namespace TruthTable

/-- The row of a formula: all values of subformulas, entered in postorder. -/
def Formula.row (v : Char → Bool) (f : Formula) : Row :=
  f.subformulas.foldl (fun row u => row.put u.label (u.eval v)) Row.empty

namespace Row

open Formula

/-! ## The fold over a formula -/

/-- The fold of a formula enters the values of its subformulas. -/
lemma run_foldM_evaluateStep {assignment : Assignment} {v : Char → Bool} {f : Formula}
    (hv : ∀ c ∈ f.letters, assignment c = some (v c)) (row : Row) :
    (f.foldM (evaluateStep assignment)).run row =
      .ok ((f.label, f.eval v),
        f.subformulas.foldl (fun row u => row.put u.label (u.eval v)) row) := by
  induction f generalizing row with
  | letter c =>
    rw [foldM, evaluateStep, hv c (by simp [letters])]
    rfl
  | not f ih =>
    rw [foldM, StateT.run_bind, ih hv, subformulas, List.foldl_append]
    rfl
  | binary op f g ihf ihg =>
    have hvf : ∀ c ∈ f.letters, assignment c = some (v c) :=
      fun c hc => hv c (List.mem_append_left _ hc)
    have hvg : ∀ c ∈ g.letters, assignment c = some (v c) :=
      fun c hc => hv c (List.mem_append_right _ hc)
    rw [foldM, StateT.run_bind, ihf hvf, subformulas, List.foldl_append, List.foldl_append]
    change (StateT.run (g.foldM (evaluateStep assignment) >>= fun b =>
      evaluateStep assignment (.binary _ (f.label, f.eval v) b)) _) = _
    rw [StateT.run_bind, ihg hvg]
    rfl

lemma evaluate_postorder {assignment : Assignment} {v : Char → Bool} {f : Formula}
    (hv : ∀ c ∈ f.letters, assignment c = some (v c)) :
    evaluate f.postorder assignment = .ok (f.row v) := by
  rw [evaluate, Postorder.fold_postorder, StateT.run_map, run_foldM_evaluateStep hv]
  rfl

/-! ## What is found in a row -/

/-- If each step succeeds on its own, all of them succeed together. -/
lemma mapM_eq_pure_map {m : Type → Type} [Monad m] [LawfulMonad m] {α β : Type} {g : α → m β}
    {h : α → β} {as : List α} (hg : ∀ a ∈ as, g a = pure (h a)) :
    as.mapM g = pure (as.map h) := by
  induction as with
  | nil => exact List.mapM_nil
  | cons a as ih =>
    rw [List.mapM_cons, hg a List.mem_cons_self, ih fun b hb => hg b (List.mem_cons_of_mem a hb)]
    simp

/-- After entering many values, a label has the value that all entries for it agree on. -/
lemma get?_foldl_put {v : Char → Bool} {us : List Formula} {l : String} {b : Bool}
    (hb : ∀ u ∈ us, u.label = l → u.eval v = b) (row : Row) :
    (us.foldl (fun row u => row.put u.label (u.eval v)) row).get? l =
      if l ∈ us.map label then some b else row.get? l := by
  induction us generalizing row with
  | nil => simp
  | cons u us ih =>
    rw [List.foldl_cons, ih fun w hw => hb w (List.mem_cons_of_mem u hw), get?_put]
    -- the entries of `us` come later than that of `u`, so they win
    by_cases hl : l ∈ us.map label
    · simp [hl]
    · by_cases hu : l = u.label
      · simp [hu, hb u List.mem_cons_self hu.symm]
      · simp [hl, hu]

/-- A subformula has its value under its label. -/
lemma get?_row {v : Char → Bool} {f u : Formula} (hf : f.Legible) (hu : u ∈ f.subformulas) :
    (f.row v).get? u.label = some (u.eval v) := by
  have hval : ∀ w ∈ f.subformulas, w.label = u.label → w.eval v = u.eval v := by
    intro w hw hlabel
    rw [label_injective (hf.of_mem_subformulas hw) (hf.of_mem_subformulas hu) hlabel]
  rw [Formula.row, get?_foldl_put hval, if_pos (List.mem_map_of_mem hu)]

/-- The row of a formula is read through columns that stand for its subformulas. -/
lemma project_row {v : Char → Bool} {f : Formula} (hf : f.Legible) {us : List Formula}
    (hus : ∀ u ∈ us, u ∈ f.subformulas) (formula : String) :
    (f.row v).project { labels := us.map label, formula } = .ok (us.map (eval v)) := by
  rw [project, List.mapM_map]
  refine mapM_eq_pure_map fun u hu => ?_
  rw [Function.comp_apply, get?_row hf (hus u hu)]
  rfl

end Row

end TruthTable
