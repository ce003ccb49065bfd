/-
# Rows agree with columns

The columns and the row of a sequence in postorder come from two folds that share nothing
but the way labels are written.  This file compares them, for arbitrary sequences and for
assignments that cover the letters.

If the sequence is not the postorder of a formula, it has neither columns nor a row.  The fold
that fills a row might stop earlier than the other one, at a letter without a value, but
there is no such letter (`exists_run_foldFrom_evaluateStep`).  If it is, the row has a value
for exactly the labels that have a column (`agrees_row`).
-/
import Mathlib.Data.Finset.Card
import TruthTable.Proofs.Table

namespace TruthTable.Row

open Formula
open Postorder (Misfit)

/-! ## Sequences without a formula -/

/-- If all letters have values, the fold that fills a row runs without a fault, on any
stack. -/
lemma exists_run_foldFrom_evaluateStep {assignment : Assignment} {v : Char → Bool}
    {ps : List Token} (hv : ∀ c, .letter c ∈ ps → assignment c = some (v c))
    (stack : List (String × Bool)) (row : Row) :
    ∃ result row', (Postorder.foldFrom (evaluateStep assignment) stack ps).run row =
      .ok (result, row') := by
  induction ps generalizing stack row with
  | nil => exact ⟨_, row, rfl⟩
  | cons t ps ih =>
    have hrest : ∀ c, .letter c ∈ ps → assignment c = some (v c) :=
      fun c hc => hv c (List.mem_cons_of_mem t hc)
    match t, stack with
    | .letter c, stack =>
      rw [Postorder.foldFrom, StateT.run_bind, evaluateStep, hv c List.mem_cons_self]
      exact ih hrest ((Label.letter c, v c) :: stack) (row.put (Label.letter c) (v c))
    | .connective .not, (a, x) :: stack =>
      exact ih hrest ((Label.unary .not a, !x) :: stack) (row.put (Label.unary .not a) !x)
    | .connective (.binary op), (b, y) :: (a, x) :: stack =>
      exact ih hrest ((Label.binary (.binary op) a b, op.apply x y) :: stack)
        (row.put (Label.binary (.binary op) a b) (op.apply x y))
    | .connective .not, [] | .connective (.binary op), [] | .connective (.binary op), [_]
    | .leftParen, _ | .rightParen, _ => exact ⟨_, row, rfl⟩

/-- Without a formula there is no row. -/
lemma evaluate_eq_malformed {assignment : Assignment} {v : Char → Bool} {ps : List Token}
    (hv : ∀ c, .letter c ∈ ps → assignment c = some (v c))
    (hps : ∀ f : Formula, ps ≠ f.postorder) :
    evaluate ps assignment = .error (.error .malformed) := by
  rcases Postorder.postorder_or_misfit ps with ⟨f, hf⟩ | ⟨e, he⟩
  · exact absurd hf (hps f)
  · obtain ⟨before, hfold⟩ := he (evaluateStep assignment) [] rfl
    obtain ⟨result, row, hrun⟩ := exists_run_foldFrom_evaluateStep hv [] empty
    have hresult : result = .error e := by
      rw [hfold, StateT.run_bind] at hrun
      cases hbefore : before.run empty with
      | error fault => simp [hbefore] at hrun
      | ok r => simp_all
    rw [evaluate, Postorder.fold, hrun, hresult]
    rfl

/-- Without a formula there are no columns. -/
lemma ofPostorder_eq_malformed {ps : List Token} (hps : ∀ f : Formula, ps ≠ f.postorder)
    (seeds : List Char) :
    (Columns.ofPostorder ps seeds).mapError Misfit.failure = .error (.error .malformed) := by
  cases hcols : Columns.ofPostorder ps seeds with
  | error e => rfl
  | ok cols =>
    obtain ⟨f, hf⟩ := Columns.exists_postorder_of_ofPostorder hcols
    exact absurd hf (hps f)

/-! ## The labels of a row -/

/-- The labels that have a value. -/
def labels (row : Row) : List String := row.entries.map Prod.fst

lemma isSome_get?_iff {row : Row} {l : String} : (row.get? l).isSome = true ↔ l ∈ row.labels := by
  rw [get?, List.lookup_isSome_iff, labels, List.mem_map]
  exact exists_congr fun e => and_congr_right fun _ => beq_iff_eq.trans eq_comm

lemma length_labels (row : Row) : row.labels.length = row.size := List.length_map _

/-- The row of a formula has the labels of its subformulas. -/
lemma mem_labels_row {v : Char → Bool} {f : Formula} (hf : f.Legible) {l : String} :
    l ∈ (f.row v).labels ↔ ∃ u ∈ f.subformulas, u.label = l := by
  rw [← isSome_get?_iff]
  constructor
  · intro hl
    by_contra hno
    have hval : ∀ u ∈ f.subformulas, u.label = l → u.eval v = false :=
      fun u hu hlabel => absurd ⟨u, hu, hlabel⟩ hno
    have hmem : l ∉ f.subformulas.map label := fun h => hno (List.mem_map.1 h)
    have hnone : (f.row v).get? l = none := by
      rw [Formula.row, get?_foldl_put hval, if_neg hmem]
      rfl
    simp [hnone] at hl
  · rintro ⟨u, hu, rfl⟩
    simp [get?_row hf hu]

/-! ## The row and the columns of a formula -/

/-- The row holds the values of the subformulas of `f` under `v` and nothing else, and the
columns list the same labels. -/
structure Agrees (row : Row) (cols : Columns) (f : Formula) (v : Char → Bool) : Prop where
  isSome_get? : ∀ l, (row.get? l).isSome = true ↔ l ∈ cols.labels
  size_row : row.size = cols.size
  /-- There is one column for each subformula, however often it occurs. -/
  size_columns : cols.size = f.subformulas.toFinset.card
  get?_label : ∀ u ∈ f.subformulas, row.get? u.label = some (u.eval v)
  /-- The row is read through the columns without a fault, in the order of the columns. -/
  project : ∃ us : List Formula, (∀ u, u ∈ us ↔ u ∈ f.subformulas) ∧
    cols.labels = us.map label ∧ row.project cols = .ok (us.map (eval v))

lemma size_columns_table (f : Formula) : f.table.columns.size = f.subformulas.toFinset.card := by
  have hsame : (f.columns f.alphabet).toFinset = f.subformulas.toFinset :=
    List.toFinset.ext fun _ => mem_columns_alphabet
  rw [← hsame, List.toFinset_card_of_nodup (nodup_columns f.nodup_alphabet f)]
  exact List.length_map _

/-- **The row of a formula agrees with its columns.** -/
lemma agrees_row {f : Formula} (hf : f.Legible) (v : Char → Bool) :
    (f.row v).Agrees f.table.columns f v where
  isSome_get? l := by rw [isSome_get?_iff, mem_labels_row hf, Table.mem_labels_table]
  size_row := by
    have hnodup : (f.row v).labels.Nodup := (f.row v).nodup
    have hperm : (f.row v).labels.Perm f.table.columns.labels :=
      (List.perm_ext_iff_of_nodup hnodup (Table.nodup_labels_table hf)).2
        fun l => by rw [mem_labels_row hf, Table.mem_labels_table]
    rw [← length_labels, hperm.length_eq]
    rfl
  size_columns := size_columns_table f
  get?_label _ hu := get?_row hf hu
  project :=
    ⟨f.columns f.alphabet, fun _ => mem_columns_alphabet, rfl,
      project_row hf (fun _ hu => mem_columns_alphabet.1 hu) f.label⟩

/-- **Columns and rows stand or fall together.**  If the letters of a sequence have values, the
sequence has both, and they agree on its formula, or it is the postorder of no formula and has
neither.  The letters may be any characters that cannot begin a compound label. -/
theorem agrees_or_malformed {ps : List Token} {assignment : Assignment} {v : Char → Bool}
    (hps : ∀ c, .letter c ∈ ps → c ≠ '~' ∧ c ≠ '(')
    (hv : ∀ c, .letter c ∈ ps → assignment c = some (v c)) :
    (∃ f cols row, ps = f.postorder ∧ Columns.ofPostorder ps (Token.letters ps) = .ok cols ∧
        evaluate ps assignment = .ok row ∧ row.Agrees cols f v) ∨
      (∀ f : Formula, ps ≠ f.postorder) ∧
        (Columns.ofPostorder ps (Token.letters ps)).mapError Misfit.failure =
          .error (.error .malformed) ∧
        evaluate ps assignment = .error (.error .malformed) := by
  by_cases hformula : ∃ f : Formula, ps = f.postorder
  · obtain ⟨f, rfl⟩ := hformula
    have hletter : ∀ c ∈ f.letters, .letter c ∈ f.postorder := by
      intro c hc
      rw [← Token.mem_letters]
      exact mem_alphabet.2 hc
    have hf : f.Legible := fun c hc => hps c (hletter c hc)
    exact .inl ⟨f, f.table.columns, f.row v, rfl, Columns.ofPostorder_postorder hf f.alphabet,
      evaluate_postorder fun c hc => hv c (hletter c hc), agrees_row hf v⟩
  · have hno : ∀ f : Formula, ps ≠ f.postorder := fun f hf => hformula ⟨f, hf⟩
    exact .inr ⟨hno, ofPostorder_eq_malformed hno _, evaluate_eq_malformed hv hno⟩

/-- The subformula `~A` of `(~A&~A)` occurs twice; it has one column and one value. -/
theorem agrees_or_malformed_repeated_not :
    let ps : List Token := [.letter 'A', .connective .not, .letter 'A', .connective .not,
      .connective (.binary .and)]
    let assignment : Assignment := fun c => if c = 'A' then some true else none
    (∀ c, .letter c ∈ ps → c ≠ '~' ∧ c ≠ '(') ∧ (∀ c, .letter c ∈ ps → assignment c = some true) ∧
      ∃ row, evaluate ps assignment = .ok row ∧ row.size = 3 ∧ row.get? "~A" = some false := by
  intro ps assignment
  have hletter : ∀ c, .letter c ∈ ps → c = 'A' := by simp [ps]
  have hps : ∀ c, .letter c ∈ ps → c ≠ '~' ∧ c ≠ '(' := by
    intro c hc
    obtain rfl := hletter c hc
    decide
  have hv : ∀ c, .letter c ∈ ps → assignment c = some ((fun _ => true) c) :=
    fun c hc => if_pos (hletter c hc)
  refine ⟨hps, hv, ?_⟩
  let f : Formula := .binary .and (.not (.letter 'A')) (.not (.letter 'A'))
  rcases agrees_or_malformed hps hv with ⟨g, cols, row, hg, -, hrow, hagrees⟩ | ⟨hno, -⟩
  · obtain rfl : f = g := postorder_injective hg
    have hsize : row.size = 3 := by
      rw [hagrees.size_row, hagrees.size_columns]
      decide
    exact ⟨row, hrow, hsize, hagrees.get?_label (.not (.letter 'A')) (by decide)⟩
  · exact absurd rfl (hno f)

end TruthTable.Row
