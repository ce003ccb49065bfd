/-
# The shape of a table

Whatever sequence a table was made of, its columns and rows are arranged in the same way.  The
columns begin with the letters, in increasing order, and end with the whole formula, and no
label occurs twice.  A row has the bits of its number under the letters.  Read as sequences of
truth values these bits increase with the number (`map_valuation_lt`), and every sequence of the
right length occurs (`exists_map_valuation_eq`).  So the rows run through all assignments in
lexicographic order, each once.

A column is found by its label, and a subformula has its values in its column
(`column?_table`).  `Table.Arranged` collects all this, and `arranged_of_ofTokens` says that
every table is arranged so.
-/
import Mathlib.Data.List.Lex
import Mathlib.Data.Nat.Bitwise
import TruthTable.Proofs.Answer

namespace TruthTable.Table

open Formula
open Token (letterCount)

/-! ## The assignments of the rows -/

section

variable {cs : List Char} {i k m : ℕ}

/-- Each bit of the row number is the value of a letter. -/
lemma testBit_eq_valuation (hcs : cs.Nodup) (i : ℕ) (hm : m < cs.length) :
    i.testBit m = valuation cs i cs[cs.length - 1 - m] := by
  have hback : cs.length - 1 - (cs.length - 1 - m) = m := by omega
  rw [valuation_getElem hcs i (by omega), hback]

/-- Row numbers have no other bits. -/
lemma testBit_eq_of_le (hi : i < 2 ^ cs.length) (hk : k < 2 ^ cs.length) (hm : cs.length ≤ m) :
    i.testBit m = k.testBit m := by
  have hle : 2 ^ cs.length ≤ 2 ^ m := Nat.pow_le_pow_right (by decide) hm
  rw [Nat.testBit_eq_false_of_lt (Nat.lt_of_lt_of_le hi hle),
    Nat.testBit_eq_false_of_lt (Nat.lt_of_lt_of_le hk hle)]

lemma eq_of_map_valuation_eq (hcs : cs.Nodup) (hi : i < 2 ^ cs.length) (hk : k < 2 ^ cs.length)
    (h : cs.map (valuation cs i) = cs.map (valuation cs k)) : i = k := by
  refine Nat.eq_of_testBit_eq fun m => ?_
  by_cases hm : m < cs.length
  · rw [testBit_eq_valuation hcs i hm, testBit_eq_valuation hcs k hm]
    exact List.map_inj_left.1 h _ (List.getElem_mem _)
  · exact testBit_eq_of_le hi hk (Nat.not_lt.1 hm)

/-- The first letter with different values decides which row number is less, because it has the
highest of the bits that differ. -/
lemma lt_of_map_valuation_lt (hcs : cs.Nodup) (hi : i < 2 ^ cs.length) (hk : k < 2 ^ cs.length)
    (h : cs.map (valuation cs i) < cs.map (valuation cs k)) : i < k := by
  rcases List.lt_iff_exists.1 h with ⟨-, hlen⟩ | ⟨j, hj, _, hsame, hlt⟩
  · simp at hlen
  · have hj' : j < cs.length := by simpa using hj
    simp only [List.getElem_map] at hsame hlt
    rw [valuation_getElem hcs i hj', valuation_getElem hcs k hj', Bool.lt_iff] at hlt
    refine Nat.lt_of_testBit (cs.length - 1 - j) hlt.1 hlt.2 fun m hm => ?_
    by_cases hm' : m < cs.length
    · rw [testBit_eq_valuation hcs i hm', testBit_eq_valuation hcs k hm']
      exact hsame _ (by omega)
    · exact testBit_eq_of_le hi hk (Nat.not_lt.1 hm')

/-- **The assignments increase with the row number**, in lexicographic order. -/
lemma map_valuation_lt (hcs : cs.Nodup) (hk : k < 2 ^ cs.length) (hik : i < k) :
    cs.map (valuation cs i) < cs.map (valuation cs k) := by
  have hi : i < 2 ^ cs.length := Nat.lt_trans hik hk
  rcases lt_trichotomy (cs.map (valuation cs i)) (cs.map (valuation cs k)) with h | h | h
  · exact h
  · exact absurd (eq_of_map_valuation_eq hcs hi hk h) (Nat.ne_of_lt hik)
  · exact absurd (lt_of_map_valuation_lt hcs hk hi h) (Nat.lt_asymm hik)

/-- Every sequence of truth values, one for each letter, is the assignment of some row. -/
lemma exists_map_valuation_eq (hcs : cs.Nodup) {values : List Bool}
    (hlen : values.length = cs.length) :
    ∃ i < 2 ^ cs.length, cs.map (valuation cs i) = values := by
  obtain ⟨i, hi, hvalues⟩ := exists_valuation hcs fun c => values.getD (cs.idxOf c) false
  refine ⟨i, by rwa [← rowCount_eq], List.ext_getElem (by simp [hlen]) fun j hj hj' => ?_⟩
  have hj : j < cs.length := by simpa using hj
  rw [List.getElem_map, hvalues _ (List.getElem_mem hj), hcs.idxOf_getElem,
    List.getD_eq_getElem _ _ hj']

end

/-! ## Columns -/

section

variable {f u : Formula}

lemma labels_table (f : Formula) :
    f.table.columns.labels = (f.columns f.alphabet).map label := rfl

lemma rows_table (f : Formula) :
    f.table.rows = (List.range (rowCount f.alphabet)).map fun i =>
      (f.columns f.alphabet).map (eval (valuation f.alphabet i)) := rfl

/-- Labels and rows begin with what belongs to the letters. -/
lemma take_map_columns {β : Type} (g : Formula → β) (f : Formula) :
    ((f.columns f.alphabet).map g).take f.alphabet.length =
      f.alphabet.map fun c => g (letter c) := by
  rw [Formula.columns, List.map_append, List.map_map, List.take_left' (by simp)]
  rfl

/-- The assignment of each row stands at its beginning. -/
lemma map_take_rows_table (f : Formula) :
    f.table.rows.map (List.take f.alphabet.length) =
      (List.range (rowCount f.alphabet)).map fun i =>
        f.alphabet.map (valuation f.alphabet i) := by
  rw [rows_table, List.map_map]
  exact congrArg (List.map · _) (funext fun i => take_map_columns _ f)

lemma position?_label (hf : f.Legible) {j : ℕ} (hu : (f.columns f.alphabet)[j]? = some u) :
    f.table.columns.position? u.label = some j := by
  obtain ⟨hj, rfl⟩ := List.getElem?_eq_some_iff.1 hu
  have hj' : j < f.table.columns.labels.length := by simpa [labels_table] using hj
  simpa [Columns.position?, labels_table] using idxOf?_getElem (nodup_labels_table hf) hj'

/-- **The column of a subformula** holds its values, from the first row to the last. -/
lemma column?_table (hf : f.Legible) {j : ℕ} (hu : (f.columns f.alphabet)[j]? = some u) :
    f.table.column? u.label =
      some ((List.range (rowCount f.alphabet)).map fun i => u.eval (valuation f.alphabet i)) := by
  rw [column?, position?_label hf hu, Option.bind_some, rows_table, List.mapM_map]
  exact Row.mapM_eq_pure_map fun i _ => by simp [hu]

end

/-! ## The arrangement -/

/-- The columns and the rows of a table are arranged as they should be, for the letters of the
sequence `ts`. -/
structure Arranged (t : Table) (ts : List Token) : Prop where
  letters_increase : t.letters.Pairwise (· < ·)
  mem_letters : ∀ c, c ∈ t.letters ↔ .letter c ∈ ts
  length_letters : t.letters.length = letterCount ts
  /-- There is a letter. -/
  one_le : 1 ≤ t.letters.length
  nodup_labels : t.columns.labels.Nodup
  letter_labels : t.columns.labels.take t.letters.length = t.letters.map Char.toString
  last_label : t.columns.labels.getLast? = some t.formula
  length_rows : t.rows.length = 2 ^ t.letters.length
  length_row : ∀ row ∈ t.rows, row.length = t.columns.labels.length
  /-- Under the letters each row has the bits of its number, the highest one first. -/
  bits : ∀ (i : ℕ) (row : List Bool), t.rows[i]? = some row → ∀ j < t.letters.length,
    row[j]? = some (i.testBit (t.letters.length - 1 - j))
  /-- The assignments come in lexicographic order, and none of them comes twice. -/
  assignments_increase : (t.rows.map (List.take t.letters.length)).Pairwise (· < ·)
  mem_assignments : ∀ values : List Bool,
    values ∈ t.rows.map (List.take t.letters.length) ↔ values.length = t.letters.length
  /-- The column of a label has the entries of all rows at the place of the label. -/
  column?_label : ∀ (j : ℕ) (l : String), t.columns.labels[j]? = some l →
    ∃ values, t.column? l = some values ∧ values.map some = t.rows.map (·[j]?)
  column?_other : ∀ l ∉ t.columns.labels, t.column? l = none
  column?_formula : t.column? t.formula = some t.finalColumn

lemma arranged_table {ts : List Token} {f : Formula} (hf : f.Legible)
    (hts : ts.filterMap Token.letter? = f.letters) : f.table.Arranged ts where
  letters_increase := Token.pairwise_letters f.postorder
  mem_letters c := by
    show c ∈ f.alphabet ↔ _
    rw [← letters_eq_alphabet hts, Token.mem_letters]
  length_letters := by
    show f.alphabet.length = _
    rw [← letters_eq_alphabet hts, Token.length_letters]
  one_le := List.length_pos_iff.2 f.alphabet_ne_nil
  nodup_labels := nodup_labels_table hf
  letter_labels := take_map_columns label f
  last_label := getLast?_labels_table f
  length_rows := by
    rw [rows_table, List.length_map, List.length_range]
    exact rowCount_eq f.alphabet
  length_row row hrow := by
    rw [rows_table] at hrow
    obtain ⟨i, -, rfl⟩ := List.mem_map.1 hrow
    simp [labels_table]
  bits i row hrow j hj := by
    have hj : j < f.alphabet.length := hj
    rw [rows_table, List.getElem?_map, Option.map_eq_some_iff] at hrow
    obtain ⟨i', hi', rfl⟩ := hrow
    obtain ⟨hi, rfl⟩ := List.getElem?_eq_some_iff.1 hi'
    show _ = some (i.testBit (f.alphabet.length - 1 - j))
    rw [← List.getElem?_take_of_lt hj, take_map_columns, List.getElem?_map,
      List.getElem?_eq_getElem hj, List.getElem_range]
    exact congrArg some (valuation_getElem f.nodup_alphabet i hj)
  assignments_increase := by
    show (f.table.rows.map (List.take f.alphabet.length)).Pairwise (· < ·)
    rw [map_take_rows_table, List.pairwise_map, rowCount_eq]
    refine List.pairwise_lt_range.imp_of_mem fun _ hk hik => ?_
    exact map_valuation_lt f.nodup_alphabet (List.mem_range.1 hk) hik
  mem_assignments values := by
    show values ∈ f.table.rows.map (List.take f.alphabet.length) ↔ values.length = f.alphabet.length
    rw [map_take_rows_table, List.mem_map]
    constructor
    · rintro ⟨i, -, rfl⟩
      exact List.length_map _
    · intro hlen
      obtain ⟨i, hi, hvalues⟩ := exists_map_valuation_eq f.nodup_alphabet hlen
      exact ⟨i, List.mem_range.2 (by rwa [rowCount_eq]), hvalues⟩
  column?_label j l hl := by
    rw [labels_table, List.getElem?_map, Option.map_eq_some_iff] at hl
    obtain ⟨u, hu, rfl⟩ := hl
    refine ⟨_, column?_table hf hu, ?_⟩
    rw [rows_table, List.map_map, List.map_map]
    exact congrArg (List.map · _) (funext fun i => by simp [hu])
  column?_other l hl := by
    rw [column?, Columns.position?, List.idxOf?_eq_none_iff.2 hl]
    rfl
  column?_formula := by
    obtain ⟨j, hj⟩ : ∃ j, (f.columns f.alphabet)[j]? = some f :=
      List.mem_iff_getElem?.1 (mem_columns_alphabet.2 f.mem_subformulas_self)
    rw [finalColumn_table]
    exact column?_table hf hj

/-- **Every table is arranged**, whatever standard tokens it was made of. -/
theorem arranged_of_ofTokens {ts : List Token} {t : Table} (hts : ∀ x ∈ ts, x.IsStandard)
    (h : ofTokens ts = .ok t) : t.Arranged ts := by
  obtain ⟨f, hf, hps, rfl⟩ := exists_eq_table hts h
  exact arranged_table hf.legible (filterMap_letter?_eq_letters hps)

/-- The sequence `B~A|` is not well-formed, but it has a table, and this is arranged. -/
theorem arranged_of_ofTokens_suffix_or :
    let ts : List Token := [.letter 'B', .connective .not, .letter 'A', .connective (.binary .or)]
    (∀ x ∈ ts, x.IsStandard) ∧ Token.isWellFormed ts = false ∧
      ∃ t, ofTokens ts = .ok t ∧ t.Arranged ts ∧
        t.columns.labels = ["A", "B", "~A", "(B|~A)"] := by
  intro ts
  have hts : ∀ x ∈ ts, x.IsStandard := by decide
  let f : Formula := .binary .or (.letter 'B') (.not (.letter 'A'))
  have hf : f.IsStandard := (isStandard_iff rfl).2 hts
  have h : ofTokens ts = .ok f.table := ofTokens_eq_table rfl hf.legible
  exact ⟨hts, by decide, f.table, h, arranged_of_ofTokens hts h, by decide⟩

end TruthTable.Table
