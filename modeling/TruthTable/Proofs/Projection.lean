/-
# Reading the row of one formula through the columns of another

The row of a formula has a value for the label of each of its subformulas and for no other
label.  So it can be read through the columns of another formula `g` just if every column of
`g` stands for a subformula of the first one.  The last column of `g` stands for `g` itself, and the
subformulas of a subformula are subformulas, so all that matters is whether `g` is one.

If it is, the values read are those of the row of `g`, because the value of a formula depends on
its letters only.  Otherwise the fault names the first column without a value.
-/
import TruthTable.Proofs.Agreement

namespace TruthTable.Row

open Formula

section

variable {v : Char → Bool} {f g : Formula}

/-- The row of a formula has no value for a label of anything else. -/
lemma get?_row_eq_none_iff (hf : f.Legible) {l : String} :
    (f.row v).get? l = none ↔ l ∉ f.subformulas.map label := by
  rw [← Option.not_isSome_iff_eq_none, isSome_get?_iff, mem_labels_row hf, List.mem_map]

/-- The first column without a value is the fault of the reading. -/
lemma project_eq_missingColumn {row : Row} {cols : Columns} {l : String}
    (h : cols.labels.find? (fun k => (row.get? k).isNone) = some l) :
    row.project cols = .error (.missingColumn l) := by
  obtain ⟨hl, before, after, hlabels, hbefore⟩ := List.find?_eq_some_iff_append.1 h
  rw [project, hlabels]
  clear h hlabels
  induction before with
  | nil => rw [List.nil_append, List.mapM_cons, Option.isNone_iff_eq_none.1 hl]; rfl
  | cons k before ih =>
    have hk : (row.get? k).isSome = true := by simpa using hbefore k List.mem_cons_self
    obtain ⟨value, hvalue⟩ := Option.isSome_iff_exists.1 hk
    rw [List.cons_append, List.mapM_cons, hvalue,
      ih fun k' hk' => hbefore k' (List.mem_cons_of_mem k hk')]
    rfl

/-- Through the columns of a subformula its values are read. -/
lemma project_row_table (hf : f.Legible) (hg : g ∈ f.subformulas) :
    (f.row v).project g.table.columns = .ok ((g.columns g.alphabet).map (eval v)) :=
  project_row hf (fun _ hu => subformulas_subset_of_mem hg (mem_columns_alphabet.1 hu)) g.label

/-- The formula itself has a column, so with another formula some column has no value. -/
lemma exists_find?_labels_table (hf : f.Legible) (hg : g.Legible) (hgf : g ∉ f.subformulas) :
    ∃ l, g.table.columns.labels.find? (· ∉ f.subformulas.map label) = some l := by
  rw [← Option.isSome_iff_exists, List.find?_isSome]
  refine ⟨g.label, Table.mem_labels_table.2 ⟨g, g.mem_subformulas_self, rfl⟩, decide_eq_true ?_⟩
  intro hmem
  obtain ⟨u, hu, hlabel⟩ := List.mem_map.1 hmem
  obtain rfl : u = g := label_injective (hf.of_mem_subformulas hu) hg hlabel
  exact hgf hu

lemma project_row_table_eq_error (hf : f.Legible) {l : String}
    (hl : g.table.columns.labels.find? (· ∉ f.subformulas.map label) = some l) :
    (f.row v).project g.table.columns = .error (.missingColumn l) := by
  refine project_eq_missingColumn ?_
  rw [← hl]
  refine congrArg (List.find? · _) (funext fun k => ?_)
  rw [Bool.eq_iff_iff, Option.isNone_iff_eq_none, get?_row_eq_none_iff hf, decide_eq_true_iff]

end

/-- What it means to read a row of the formula `f`, made under this assignment, through the columns
of the formula `g`. -/
structure ReadsThrough (row : Row) (cols : Columns) (f g : Formula) (assignment : Assignment) :
    Prop where
  succeeds_iff : (∃ values, row.project cols = .ok values) ↔ g ∈ f.subformulas
  /-- The values are those of a row of `g`, made under any assignment that gives the letters of
  `g` the same values. -/
  own : g ∈ f.subformulas → ∀ other : Assignment, (∀ c ∈ g.letters, other c = assignment c) →
    ∃ row' values, evaluate g.postorder other = .ok row' ∧ row'.project cols = .ok values ∧
      row.project cols = .ok values
  /-- The fault names the first label that labels no subformula of `f`. -/
  missing : g ∉ f.subformulas → ∃ l, cols.labels.find? (· ∉ f.subformulas.map label) = some l ∧
    row.project cols = .error (.missingColumn l)

lemma readsThrough_row {f g : Formula} (hf : f.Legible) (hg : g.Legible) {assignment : Assignment}
    {v : Char → Bool} (hv : ∀ c ∈ f.letters, assignment c = some (v c)) :
    (f.row v).ReadsThrough g.table.columns f g assignment where
  succeeds_iff := by
    constructor
    · rintro ⟨values, hvalues⟩
      by_contra hgf
      obtain ⟨l, hl⟩ := exists_find?_labels_table hf hg hgf
      simp [project_row_table_eq_error hf hl] at hvalues
    · exact fun hgf => ⟨_, project_row_table hf hgf⟩
  own hgf other hother := by
    have hv' : ∀ c ∈ g.letters, other c = some (v c) := fun c hc =>
      (hother c hc).trans (hv c (letters_subset_of_mem_subformulas hgf hc))
    exact ⟨g.row v, _, evaluate_postorder hv', project_row_table hg g.mem_subformulas_self,
      project_row_table hf hgf⟩
  missing hgf := by
    obtain ⟨l, hl⟩ := exists_find?_labels_table hf hg hgf
    exact ⟨l, hl, project_row_table_eq_error hf hl⟩

/-- **A row is read through the columns of its subformulas and of no other formula.** -/
theorem evaluate_readsThrough {f g : Formula} (hf : f.Legible) (hg : g.Legible)
    {assignment : Assignment} (hassignment : ∀ c ∈ f.letters, (assignment c).isSome = true) :
    ∃ row cols, evaluate f.postorder assignment = .ok row ∧
      Columns.ofPostorder g.postorder (Token.letters g.postorder) = .ok cols ∧
      row.ReadsThrough cols f g assignment := by
  have hv : ∀ c ∈ f.letters, assignment c = some ((assignment c).getD false) := by
    intro c hc
    obtain ⟨b, hb⟩ := Option.isSome_iff_exists.1 (hassignment c hc)
    rw [hb, Option.getD_some]
  exact ⟨_, g.table.columns, evaluate_postorder hv, Columns.ofPostorder_postorder hg _,
    readsThrough_row hf hg hv⟩

/-- A row of `A&~B` is read through the columns of `~B`.  The columns of `~B|~A` are those of
`A`, `B`, `~B`, `~A` and `~B|~A`, and the row has no value for the fourth one. -/
theorem evaluate_readsThrough_overlapping :
    let f : Formula := .binary .and (.letter 'A') (.not (.letter 'B'))
    let g : Formula := .not (.letter 'B')
    let h : Formula := .binary .or (.not (.letter 'B')) (.not (.letter 'A'))
    let assignment : Assignment := fun c => if c = 'A' ∨ c = 'B' then some true else none
    f.Legible ∧ g.Legible ∧ h.Legible ∧ (∀ c ∈ f.letters, (assignment c).isSome = true) ∧
      ∃ row cols cols', evaluate f.postorder assignment = .ok row ∧
        Columns.ofPostorder g.postorder (Token.letters g.postorder) = .ok cols ∧
        (∃ values, row.project cols = .ok values) ∧
        Columns.ofPostorder h.postorder (Token.letters h.postorder) = .ok cols' ∧
        row.project cols' = .error (.missingColumn "~A") := by
  intro f g h assignment
  have hf : f.Legible := by decide
  have hg : g.Legible := by decide
  have hh : h.Legible := by decide
  have hassignment : ∀ c ∈ f.letters, (assignment c).isSome = true := by
    simp [f, letters, assignment]
  obtain ⟨row, cols, hrow, hcols, hread⟩ := evaluate_readsThrough hf hg hassignment
  obtain ⟨row', cols', hrow', hcols', hread'⟩ := evaluate_readsThrough hf hh hassignment
  obtain rfl : row = row' := Except.ok.inj (hrow.symm.trans hrow')
  obtain ⟨l, hl, hmissing⟩ := hread'.missing (by decide)
  have hvalue : Columns.ofPostorder h.postorder (Token.letters h.postorder) = .ok
      { labels := ["A", "B", "~B", "~A", "(~B|~A)"], formula := "(~B|~A)" } := by decide
  obtain rfl := Except.ok.inj (hcols'.symm.trans hvalue)
  have hfirst : l = "~A" := Option.some.inj (hl.symm.trans (by decide))
  exact ⟨hf, hg, hh, hassignment, row, cols, _, hrow, hcols, hread.succeeds_iff.2 (by decide),
    hcols', hfirst ▸ hmissing⟩

end TruthTable.Row
