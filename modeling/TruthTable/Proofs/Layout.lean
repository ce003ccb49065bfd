/-
# The width of a printed table

The longest label of a table is that of the whole formula, so the width of the columns is
known from it alone (`Table.columnWidth_labels_table`), and so is whether the table can be
printed (`Table.render_table_of_le`, `Table.render_table_of_lt`).
-/
import Mathlib.Order.MinMax
import TruthTable.Proofs.Table
import TruthTable.Table.Layout

namespace TruthTable.Table

open Formula

/-- A running maximum is bounded by what bounds its start and every number. -/
lemma foldl_max_le_iff {ns : List ℕ} {m bound : ℕ} :
    ns.foldl max m ≤ bound ↔ m ≤ bound ∧ ∀ n ∈ ns, n ≤ bound := by
  induction ns generalizing m with
  | nil => simp
  | cons n ns ih => rw [List.foldl_cons, ih, max_le_iff, List.forall_mem_cons, and_assoc]

/-- The label of the formula is the longest one. -/
lemma foldl_max_length_labels_table (f : Formula) :
    (f.table.columns.labels.map String.length).foldl max 0 = f.label.length := by
  refine Nat.le_antisymm (foldl_max_le_iff.2 ⟨Nat.zero_le _, ?_⟩) ?_
  · rintro n hn
    obtain ⟨l, hl, rfl⟩ := List.mem_map.1 hn
    obtain ⟨u, hu, rfl⟩ := mem_labels_table.1 hl
    exact length_label_le_of_mem_subformulas hu
  · have hself : f.label ∈ f.table.columns.labels :=
      mem_labels_table.2 ⟨f, f.mem_subformulas_self, rfl⟩
    exact (foldl_max_le_iff.1 (Nat.le_refl _)).2 _ (List.mem_map_of_mem hself)

lemma columnWidth_labels_table (f : Formula) :
    columnWidth f.table.columns.labels = max 4 (f.label.length + 2) := by
  rw [columnWidth, foldl_max_length_labels_table]

/-- A table is too wide if the label of its formula does not fit into a column. -/
lemma tooWide_table_iff {f : Formula} :
    f.table.tooWide = true ↔ maxWidth < f.table.formula.length + 2 := by
  have hfour : ¬maxWidth < 4 := by decide
  rw [tooWide, decide_eq_true_iff, columnWidth_labels_table, lt_max_iff, or_iff_right hfour,
    formula_table]

lemma render_table_of_le {f : Formula} (h : f.table.formula.length + 2 ≤ maxWidth) :
    f.table.render = .ok f.table.layout :=
  if_neg fun hwide => Nat.not_lt.2 h (tooWide_table_iff.1 hwide)

lemma render_table_of_lt {f : Formula} (h : maxWidth < f.table.formula.length + 2) :
    f.table.render = .error .tooWide :=
  if_pos (tooWide_table_iff.2 h)

end TruthTable.Table
