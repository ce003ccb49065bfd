/-
# The order of the columns

A formula is completed when all of it has been read.  In the postorder of a formula a
subformula may be completed several times, and `Formula.subformulas` lists all completions
in their order.  The columns of a formula show the compound subformulas by their first
completion: each of them once, and a subformula before another one that is completed later
(`pairwise_compounds`).

A formula is completed after its operands, every time, so the first time as well
(`idxOf_operand_lt`).  Hence the columns of the operands come before that of the formula, and
the last column is that of the whole formula (`Columns.ofPostorder_inOrder`).

All this holds for any letters that the columns are started with: some may be missing, some may
stand there twice, and some may not occur in the formula at all.
-/
import Mathlib.Data.List.Basic
import TruthTable.Proofs.Table

namespace TruthTable

namespace Formula

/-! ## First completions -/

/-- The formulas that a compound formula is made of. -/
def operands : Formula → List Formula
  | letter _ => []
  | not f => [f]
  | binary _ f g => [f, g]

section

variable {u v : Formula}

/-- In front of `ws` one formula comes before another if it does so in `us`, or if the other one
is not there. -/
lemma idxOf_append_lt {us ws : List Formula} (hus : u ∈ us → us.idxOf v < us.idxOf u)
    (hws : u ∉ us → v ∈ us ∨ ws.idxOf v < ws.idxOf u) :
    (us ++ ws).idxOf v < (us ++ ws).idxOf u := by
  by_cases hu : u ∈ us
  · have hlt := hus hu
    have hv : v ∈ us :=
      List.idxOf_lt_length_iff.1 (Nat.lt_trans hlt (List.idxOf_lt_length_of_mem hu))
    rwa [List.idxOf_append_of_mem hv, List.idxOf_append_of_mem hu]
  · rw [List.idxOf_append_of_notMem hu]
    by_cases hv : v ∈ us
    · have hlt := List.idxOf_lt_length_of_mem hv
      rw [List.idxOf_append_of_mem hv]
      omega
    · have hlt := (hws hu).resolve_left hv
      rw [List.idxOf_append_of_notMem hv]
      omega

/-- **Operands are completed first.** -/
lemma idxOf_operand_lt {f : Formula} (hu : u ∈ f.subformulas) (hv : v ∈ u.operands) :
    f.subformulas.idxOf v < f.subformulas.idxOf u := by
  induction f with
  | letter c =>
    obtain rfl : u = letter c := by simpa [subformulas] using hu
    simp [operands] at hv
  | not f ih =>
    refine idxOf_append_lt ih fun hnew => .inl ?_
    obtain rfl : u = not f := by simpa using (List.mem_append.1 hu).resolve_left hnew
    obtain rfl : v = f := by simpa [operands] using hv
    exact v.mem_subformulas_self
  | binary op f g ihf ihg =>
    refine idxOf_append_lt (fun hold => ?_) fun hnew => .inl ?_
    · refine idxOf_append_lt ihf fun hright => .inr (ihg ?_)
      exact (List.mem_append.1 hold).resolve_left hright
    · obtain rfl : u = binary op f g := by simpa using (List.mem_append.1 hu).resolve_left hnew
      have hv : v = f ∨ v = g := by simpa [operands] using hv
      rcases hv with rfl | rfl
      · exact List.mem_append_left _ v.mem_subformulas_self
      · exact List.mem_append_right _ v.mem_subformulas_self

end

section

variable {α : Type} [DecidableEq α] {as : List α}

/-- What comes first in a part of a list comes first in the list, if the other one is in that
part as well. -/
lemma idxOf_lt_of_filter {p : α → Bool} {a b : α} (hb : p b = true)
    (h : (as.filter p).idxOf a < (as.filter p).idxOf b) : as.idxOf a < as.idxOf b := by
  induction as with
  | nil => simp at h
  | cons x as ih =>
    by_cases hx : p x = true
    · rw [List.filter_cons_of_pos hx] at h
      by_cases hxb : x = b
      · simp [hxb] at h
      · by_cases hxa : x = a
        · simp [hxa, hxa ▸ hxb]
        · rw [List.idxOf_cons_ne _ hxa, List.idxOf_cons_ne _ hxb] at h ⊢
          exact Nat.succ_lt_succ (ih (Nat.lt_of_succ_lt_succ h))
    · have hxb : x ≠ b := fun hxb => hx (hxb ▸ hb)
      rw [List.filter_cons_of_neg hx] at h
      by_cases hxa : x = a
      · simp [hxa, hxa ▸ hxb]
      · rw [List.idxOf_cons_ne _ hxa, List.idxOf_cons_ne _ hxb]
        exact Nat.succ_lt_succ (ih h)

/-- Without its repetitions a list is in the order of first occurrences. -/
lemma pairwise_idxOf_eraseDups (as : List α) :
    as.eraseDups.Pairwise fun a b => as.idxOf a < as.idxOf b := by
  match as with
  | [] => simp
  | a :: as =>
    rw [List.eraseDups_cons, List.pairwise_cons]
    have hne : ∀ b ∈ (as.filter fun b => !b == a).eraseDups, a ≠ b := by
      intro b hb
      have hba : b ≠ a := by simpa using (List.mem_filter.1 (List.mem_eraseDups.1 hb)).2
      exact hba.symm
    refine ⟨fun b hb => ?_, ?_⟩
    · simp [hne b hb]
    · refine (pairwise_idxOf_eraseDups _).imp_of_mem fun {b c} hb hc hbc => ?_
      rw [List.idxOf_cons_ne _ (hne b hb), List.idxOf_cons_ne _ (hne c hc)]
      refine Nat.succ_lt_succ (idxOf_lt_of_filter ?_ hbc)
      simpa using (hne c hc).symm
termination_by as.length
decreasing_by
  exact Nat.lt_succ_of_le (List.length_filter_le _ _)

end

/-- The compound subformulas are listed by their first completion. -/
lemma pairwise_compounds (f : Formula) :
    f.compounds.Pairwise fun u v => f.subformulas.idxOf u < f.subformulas.idxOf v := by
  refine (pairwise_idxOf_eraseDups _).imp_of_mem fun {u v} _ hv huv => ?_
  exact idxOf_lt_of_filter (mem_compounds.1 hv).2 huv

/-- In the list of compound subformulas the operands come first. -/
lemma exists_getElem?_compounds_lt {f u v : Formula} (hu : u ∈ f.compounds)
    (hv : v ∈ u.operands) (hcompound : v.isCompound = true) :
    ∃ i j : ℕ, f.compounds[i]? = some v ∧ f.compounds[j]? = some u ∧ i < j := by
  have hlt := idxOf_operand_lt (mem_compounds.1 hu).1 hv
  have hvf : v ∈ f.compounds :=
    mem_compounds.2 ⟨List.idxOf_lt_length_iff.1 (Nat.lt_of_lt_of_le hlt List.idxOf_le_length),
      hcompound⟩
  obtain ⟨i, hi, rfl⟩ := List.getElem_of_mem hvf
  obtain ⟨j, hj, rfl⟩ := List.getElem_of_mem hu
  refine ⟨i, j, List.getElem?_eq_getElem hi, List.getElem?_eq_getElem hj, ?_⟩
  -- otherwise the operand would be completed later
  have horder := List.pairwise_iff_getElem.1 f.pairwise_compounds
  rcases Nat.lt_trichotomy i j with h | rfl | h
  · exact h
  · exact absurd hlt (Nat.lt_irrefl _)
  · exact absurd hlt (Nat.lt_asymm (horder j i hj hi h))

end Formula

namespace Columns

open Formula

/-! ## The columns of the compound subformulas -/

/-- Behind a part in which it does not occur, a member is first found where it stands. -/
lemma idxOf?_append_getElem {α : Type} [DecidableEq α] {as bs : List α} (hbs : bs.Nodup) {j : ℕ}
    (hj : j < bs.length) (hnew : bs[j] ∉ as) :
    (as ++ bs).idxOf? bs[j] = some (as.length + j) := by
  induction as with
  | nil => simpa using Table.idxOf?_getElem hbs hj
  | cons a as ih =>
    rw [List.mem_cons, not_or] at hnew
    have hne : (a == bs[j]) = false := beq_eq_false_iff_ne.2 (Ne.symm hnew.1)
    have hlen : as.length + j + 1 = (a :: as).length + j := by
      rw [List.length_cons]
      omega
    rw [List.cons_append, List.idxOf?_cons, hne, ih hnew.2, ← hlen]
    rfl

section

variable {f u : Formula} {seeds : List Char} {formula : String}

lemma nodup_labels_compounds (hf : f.Legible) : (f.compounds.map label).Nodup := by
  refine (nodup_eraseDups _).map_on fun u hu v hv hlabel => ?_
  exact label_injective (hf.of_mem_subformulas (mem_compounds.1 hu).1)
    (hf.of_mem_subformulas (mem_compounds.1 hv).1) hlabel

/-- The columns of the compound subformulas follow those of the letters. -/
lemma position?_compound (hf : f.Legible) {i : ℕ} (hu : f.compounds[i]? = some u) :
    position? { labels := (f.columns seeds).map label, formula } u.label =
      some (seeds.length + i) := by
  obtain ⟨hi, rfl⟩ := List.getElem?_eq_some_iff.1 hu
  have hi' : i < (f.compounds.map label).length := by rwa [List.length_map]
  have hnew : (f.compounds.map label)[i] ∉ seeds.map Label.letter := by
    rw [List.getElem_map]
    exact label_notMem_seeds (mem_compounds.1 (List.getElem_mem hi)).2
  have hfound := idxOf?_append_getElem (nodup_labels_compounds hf) hi' hnew
  simpa [position?, map_label_columns] using hfound

end

/-! ## The columns in order -/

/-- The columns of the formula `f` that are started with the letters `cs` are in order, and `us` are
the compound subformulas that they show. -/
structure InOrder (cols : Columns) (cs : List Char) (f : Formula) (us : List Formula) : Prop where
  /-- The given letters come first, as they are given. -/
  labels : cols.labels = cs.map Char.toString ++ us.map label
  formula : cols.formula = f.label
  mem_iff : ∀ u, u ∈ us ↔ u ∈ f.subformulas ∧ u.isCompound = true
  /-- There is one column for each of them. -/
  once : ∀ u ∈ us, cols.labels.count u.label = 1
  /-- They come in the order in which they are first completed. -/
  completion : us.Pairwise fun u v => f.subformulas.idxOf u < f.subformulas.idxOf v
  /-- The compound operands of a formula come before it. -/
  operands : ∀ u ∈ us, ∀ v ∈ u.operands, v.isCompound = true →
    ∃ i j, cols.position? v.label = some i ∧ cols.position? u.label = some j ∧ i < j
  /-- The whole formula comes last, provided that a single letter is the last one given. -/
  last : cols.labels.getLast? = some cols.formula ↔ ∀ c, f = letter c → cs.getLast? = some c

lemma getLast?_labels_columns_iff {f : Formula} {cs : List Char} :
    ((f.columns cs).map label).getLast? = some f.label ↔
      ∀ c, f = letter c → cs.getLast? = some c := by
  constructor
  · rintro h c rfl
    have hnone : (letter c).compounds = [] := rfl
    rw [columns, hnone, List.append_nil, List.map_map, List.getLast?_map,
      Option.map_eq_some_iff] at h
    obtain ⟨d, hd, hlabel⟩ := h
    have hdc : (letter d).label.toList = (letter c).label.toList := congrArg String.toList hlabel
    rw [toList_label_letter, toList_label_letter] at hdc
    rw [hd, List.head_eq_of_cons_eq hdc]
  · intro h
    rw [List.getLast?_map, getLast?_columns h]
    rfl

/-- **The columns of every formula are in order**, whatever letters they are started with. -/
theorem ofPostorder_inOrder {f : Formula} (hf : f.Legible) (seeds : List Char) :
    ∃ cols us, ofPostorder f.postorder seeds = .ok cols ∧ cols.InOrder seeds f us := by
  have hlabels : (f.columns seeds).map label =
      seeds.map Char.toString ++ f.compounds.map label := map_label_columns f seeds
  refine ⟨_, f.compounds, ofPostorder_postorder hf seeds,
    { labels := hlabels
      formula := rfl
      mem_iff := fun _ => mem_compounds
      once := ?_
      completion := f.pairwise_compounds
      operands := ?_
      last := getLast?_labels_columns_iff }⟩
  · intro u hu
    have hseeds : u.label ∉ seeds.map Char.toString := label_notMem_seeds (mem_compounds.1 hu).2
    have hone := List.count_eq_one_of_mem (nodup_labels_compounds hf) (List.mem_map_of_mem hu)
    rw [hlabels, List.count_append, List.count_eq_zero_of_not_mem hseeds, hone]
  · intro u hu v hv hcompound
    obtain ⟨i, j, hi, hj, hij⟩ := exists_getElem?_compounds_lt hu hv hcompound
    exact ⟨_, _, position?_compound hf hi, position?_compound hf hj, by omega⟩

/-- The columns of `(~A&~~A)&~A` that are started with `B`, `B` and `C`.  The letter `A` has no
column, and `~A`, which is completed three times, has one. -/
theorem ofPostorder_inOrder_repeated_not :
    let f : Formula := .binary .and
      (.binary .and (.not (.letter 'A')) (.not (.not (.letter 'A')))) (.not (.letter 'A'))
    f.Legible ∧ ∃ cols us, ofPostorder f.postorder ['B', 'B', 'C'] = .ok cols ∧
      cols.InOrder ['B', 'B', 'C'] f us ∧
      cols.labels = ["B", "B", "C", "~A", "~~A", "(~A&~~A)", "((~A&~~A)&~A)"] := by
  intro f
  have hf : f.Legible := by
    intro c hc
    obtain rfl : c = 'A' := by simpa [f, letters] using hc
    decide
  obtain ⟨cols, us, hcols, horder⟩ := ofPostorder_inOrder hf ['B', 'B', 'C']
  refine ⟨hf, cols, us, hcols, horder, ?_⟩
  have hvalue : ofPostorder f.postorder ['B', 'B', 'C'] = .ok
      { labels := ["B", "B", "C", "~A", "~~A", "(~A&~~A)", "((~A&~~A)&~A)"]
        formula := "((~A&~~A)&~A)" } := by decide
  rw [Except.ok.inj (hcols.symm.trans hvalue)]

end Columns

end TruthTable
