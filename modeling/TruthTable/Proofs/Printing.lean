/-
# A printed table shows its table

The lines of a printed table are set in columns: the cell number `j` of a line begins at the
position `j * width`, and where no cell is there are spaces, but none at the end of the line
(`InColumns`).  This fixes every character of a line.  Cells have no blanks inside, and there is
room for two spaces after each of them, so the labels in the header stand apart.

The last label is that of the formula, and it is the last word of its line
(`lastWord_lineChars`).  So the formula is found again in the text, and with it the whole table:
different tables are printed in different ways (`layout_injective`).

A table whose columns are too wide is not printed at all (`render_implies_doubled`).
-/
import Mathlib.Data.List.DropRight
import Mathlib.Data.List.Forall2
import TruthTable.Proofs.Dialogue
import TruthTable.Proofs.Shape

namespace TruthTable

/-! ## The end of a text -/

namespace Text

variable {cs ds : List Char} {c : Char}

lemma trimEnd_eq_rdropWhile (cs : List Char) : trimEnd cs = cs.rdropWhile isBlank := rfl

/-- Only the second part is trimmed, if something is left of it. -/
lemma trimEnd_append (h : trimEnd ds ≠ []) : trimEnd (cs ++ ds) = cs ++ trimEnd ds := by
  have hne : ds.reverse.dropWhile isBlank ≠ [] := by simpa [trimEnd] using h
  simp [trimEnd, List.dropWhile_append, hne]

lemma trimEnd_append_spaces (cs : List Char) (n : ℕ) :
    trimEnd (cs ++ List.replicate n ' ') = trimEnd cs := by
  induction n with
  | zero => rw [List.replicate_zero, List.append_nil]
  | succ n ih =>
    rw [List.replicate_succ', ← List.append_assoc, trimEnd_eq_rdropWhile,
      List.rdropWhile_concat_pos _ _ _ (by decide), ← trimEnd_eq_rdropWhile, ih]

lemma trimEnd_eq_self (h : ∀ c ∈ cs, isBlank c = false) : trimEnd cs = cs :=
  List.rdropWhile_eq_self_iff.2 fun hne => by simp [h _ (List.getLast_mem hne)]

/-- What follows the last blank. -/
def lastWord (cs : List Char) : List Char := cs.rtakeWhile (!isBlank ·)

lemma lastWord_eq_self (h : ∀ c ∈ cs, isBlank c = false) : lastWord cs = cs :=
  List.rtakeWhile_eq_self_iff.2 fun c hc => by simp [h c hc]

/-- Nothing before a blank is looked at. -/
lemma lastWord_append_cons (hc : isBlank c = true) : lastWord (cs ++ c :: ds) = lastWord ds := by
  induction ds using List.reverseRecOn with
  | nil => exact List.rtakeWhile_concat_neg _ _ _ (by simp [hc])
  | append_singleton ds d ih =>
    rw [lastWord] at ih
    rw [← List.cons_append, ← List.append_assoc, lastWord, List.rtakeWhile_concat, ih, lastWord,
      lastWord, List.rtakeWhile_concat]

end Text

namespace Table

open Formula

/-! ## Lines in columns -/

/-- The cells of a line stand at the multiples of the width, with spaces between them and nothing
after the last one. -/
structure InColumns (width : ℕ) (cells : List String) (cs : List Char) : Prop where
  cell : ∀ j cell, cells[j]? = some cell → ∀ i < cell.length,
    cs[j * width + i]? = cell.toList[i]?
  space : ∀ p < cs.length, (∀ j cell, cells[j]? = some cell →
    p < j * width ∨ j * width + cell.length ≤ p) → cs[p]? = some ' '
  trimmed : ∀ c, cs.getLast? = some c → Text.isBlank c = false

/-- A text that can be a cell: it has characters, but no blanks, and there is room for two
spaces after it. -/
structure IsCell (width : ℕ) (cell : String) : Prop where
  ne_nil : cell.toList ≠ []
  not_isBlank : ∀ c ∈ cell.toList, Text.isBlank c = false
  length_le : cell.length + 2 ≤ width

/-- The characters of a line, without the newline. -/
def lineChars (width : ℕ) (cells : List String) : List Char :=
  Text.trimEnd (cells.flatMap (·.toList.rightpad width ' '))

lemma toList_line (width : ℕ) (cells : List String) :
    (line width cells).toList = lineChars width cells ++ ['\n'] := by
  rw [line, String.toList_append, String.toList_ofList]
  rfl

section

variable {width : ℕ} {cell next : String} {cells : List String} {cs : List Char}

lemma length_rightpad (h : IsCell width cell) :
    (cell.toList.rightpad width ' ').length = width := by
  have hle := h.length_le
  rw [List.length_rightpad, String.length_toList]
  omega

lemma lineChars_singleton (h : IsCell width cell) : lineChars width [cell] = cell.toList := by
  rw [lineChars, List.flatMap_singleton, List.rightpad, Text.trimEnd_append_spaces,
    Text.trimEnd_eq_self h.not_isBlank]

lemma lineChars_cons_of_ne_nil (h : lineChars width cells ≠ []) :
    lineChars width (cell :: cells) = cell.toList.rightpad width ' ' ++ lineChars width cells := by
  rw [lineChars, List.flatMap_cons, Text.trimEnd_append h]
  rfl

lemma lineChars_ne_nil (hne : cells ≠ []) (h : ∀ cell ∈ cells, IsCell width cell) :
    lineChars width cells ≠ [] := by
  induction cells with
  | nil => contradiction
  | cons cell cells ih =>
    rw [List.forall_mem_cons] at h
    cases cells with
    | nil =>
      rw [lineChars_singleton h.1]
      exact h.1.ne_nil
    | cons next cells =>
      have hrest := ih (List.cons_ne_nil next cells) h.2
      rw [lineChars_cons_of_ne_nil hrest]
      exact List.append_ne_nil_of_right_ne_nil _ hrest

/-- All cells but the last one are padded. -/
lemma lineChars_cons (h : ∀ cell ∈ next :: cells, IsCell width cell) :
    lineChars width (cell :: next :: cells) =
      cell.toList.rightpad width ' ' ++ lineChars width (next :: cells) :=
  lineChars_cons_of_ne_nil (lineChars_ne_nil (List.cons_ne_nil next cells) h)

lemma inColumns_singleton (h : IsCell width cell) : InColumns width [cell] cell.toList where
  cell j c hc i _ := by
    obtain ⟨rfl, rfl⟩ : j = 0 ∧ cell = c := by
      cases j with
      | zero => simpa using hc
      | succ j => simp at hc
    rw [Nat.zero_mul, Nat.zero_add]
  space p hp hfree := by
    rcases hfree 0 cell rfl with hlt | hle
    · omega
    · rw [String.length_toList] at hp
      omega
  trimmed c hc := h.not_isBlank c (List.mem_of_getLast? hc)

/-- One more cell in front moves the others by the width. -/
lemma InColumns.cons (h : IsCell width cell) (hcs : InColumns width cells cs) (hne : cs ≠ []) :
    InColumns width (cell :: cells) (cell.toList.rightpad width ' ' ++ cs) := by
  have hwidth := length_rightpad h
  have hle := h.length_le
  constructor
  · intro j c hc i hi
    cases j with
    | zero =>
      obtain rfl : cell = c := by simpa using hc
      rw [Nat.zero_mul, Nat.zero_add, List.getElem?_append_left (by omega), List.rightpad,
        List.getElem?_append_left (by rwa [String.length_toList])]
    | succ j =>
      have hpos : (j + 1) * width + i - width = j * width + i := by
        rw [Nat.succ_mul]
        omega
      rw [List.getElem?_append_right (by rw [hwidth, Nat.succ_mul]; omega), hwidth, hpos]
      exact hcs.cell j c (by simpa using hc) i hi
  · intro p hp hfree
    by_cases hpw : p < width
    · -- in front of the second cell there is only the padding of the first one
      have hcell : cell.length ≤ p := by
        have h0 := hfree 0 cell rfl
        omega
      rw [List.getElem?_append_left (by omega), List.rightpad,
        List.getElem?_append_right (by rwa [String.length_toList]), List.getElem?_replicate_of_lt]
      rw [String.length_toList]
      omega
    · rw [List.getElem?_append_right (by omega), hwidth]
      rw [List.length_append, hwidth] at hp
      refine hcs.space (p - width) (by omega) fun j c hc => ?_
      have hj := hfree (j + 1) c (by simpa using hc)
      rw [Nat.succ_mul] at hj
      omega
  · intro c hc
    rw [List.getLast?_append_of_ne_nil _ hne] at hc
    exact hcs.trimmed c hc

/-- **Every line is set in columns.** -/
lemma inColumns_lineChars (hne : cells ≠ []) (h : ∀ cell ∈ cells, IsCell width cell) :
    InColumns width cells (lineChars width cells) := by
  induction cells with
  | nil => contradiction
  | cons cell cells ih =>
    rw [List.forall_mem_cons] at h
    cases cells with
    | nil =>
      rw [lineChars_singleton h.1]
      exact inColumns_singleton h.1
    | cons next cells =>
      have hnext := List.cons_ne_nil next cells
      rw [lineChars_cons h.2]
      exact (ih hnext h.2).cons h.1 (lineChars_ne_nil hnext h.2)

/-- The last word of a line is its last cell. -/
lemma lastWord_lineChars {last : String} (h : ∀ cell ∈ cells, IsCell width cell)
    (hlast : cells.getLast? = some last) :
    Text.lastWord (lineChars width cells) = last.toList := by
  induction cells with
  | nil => simp at hlast
  | cons cell cells ih =>
    rw [List.forall_mem_cons] at h
    cases cells with
    | nil =>
      obtain rfl : cell = last := by simpa using hlast
      rw [lineChars_singleton h.1, Text.lastWord_eq_self h.1.not_isBlank]
    | cons next cells =>
      obtain ⟨k, hk⟩ : ∃ k, width - cell.toList.length = k + 1 := by
        have hle := h.1.length_le
        exact ⟨width - cell.length - 1, by rw [String.length_toList]; omega⟩
      rw [lineChars_cons h.2, List.rightpad, hk, List.replicate_succ', ← List.append_assoc,
        List.append_assoc, List.singleton_append, Text.lastWord_append_cons (by decide)]
      exact ih h.2 (by simpa [List.getLast?_cons_cons] using hlast)

/-- At least two spaces stand between a cell and the next one. -/
lemma InColumns.spaces_between (hcs : InColumns width cells cs)
    (h : ∀ cell ∈ cells, IsCell width cell) {j : ℕ} (hj : cells[j]? = some cell)
    (hnext : j + 1 < cells.length) :
    ∃ gap, 2 ≤ gap ∧ j * width + cell.length + gap = (j + 1) * width ∧
      ∀ k < gap, cs[j * width + cell.length + k]? = some ' ' := by
  have hle := (h cell (List.mem_of_getElem? hj)).length_le
  have hwidth : (j + 1) * width = j * width + width := Nat.succ_mul j width
  -- the line is long enough, because the next cell has a first character
  have hlen : (j + 1) * width < cs.length := by
    have hcell := h _ (List.getElem_mem hnext)
    have hpos : 0 < cells[j + 1].length := by
      rw [← String.length_toList]
      exact List.length_pos_iff.2 hcell.ne_nil
    have hfirst := hcs.cell (j + 1) _ (List.getElem?_eq_getElem hnext) 0 hpos
    rw [← String.length_toList] at hpos
    rw [Nat.add_zero, List.getElem?_eq_getElem hpos] at hfirst
    exact (List.getElem?_eq_some_iff.1 hfirst).1
  refine ⟨width - cell.length, by omega, by omega, fun k hk => ?_⟩
  refine hcs.space _ (by omega) fun i c hc => ?_
  rcases Nat.lt_trichotomy i j with hij | rfl | hij
  · have hend : (i + 1) * width ≤ j * width := Nat.mul_le_mul_right width hij
    have hc_le := (h c (List.mem_of_getElem? hc)).length_le
    rw [Nat.succ_mul] at hend
    omega
  · obtain rfl : cell = c := Option.some.inj (hj.symm.trans hc)
    omega
  · have hstart : (j + 1) * width ≤ i * width := Nat.mul_le_mul_right width hij
    omega

lemma newline_notMem_lineChars (h : ∀ cell ∈ cells, IsCell width cell) :
    '\n' ∉ lineChars width cells := by
  intro hmem
  have hline : '\n' ∈ cells.flatMap (·.toList.rightpad width ' ') :=
    (List.rdropWhile_prefix Text.isBlank _).subset hmem
  obtain ⟨cell, hcell, hc⟩ := List.mem_flatMap.1 hline
  rcases List.mem_append.1 hc with hc | hc
  · have hblank := (h cell hcell).not_isBlank '\n' hc
    exact absurd hblank (by decide)
  · have hspace : '\n' = ' ' := List.eq_of_mem_replicate hc
    exact absurd hspace (by decide)

end

/-! ## The text of a table -/

/-- The text shows the table: between its first line and the verdict it has a line of labels, the
`header`, and a line for each row, the `body`. -/
structure Shows (text : String) (t : Table) (header : List Char) (body : List (List Char)) :
    Prop where
  text_eq : text.toList = ("--- Truth Table ---".toList :: header :: body ++
    [[], ("Classification: " ++ t.verdict.name).toList]).flatMap (· ++ ['\n'])
  /-- These are single lines. -/
  newline_notMem : ∀ l ∈ header :: body, '\n' ∉ l
  inColumns_header : InColumns (columnWidth t.columns.labels) t.columns.labels header
  inColumns_body : List.Forall₂ (fun row => InColumns (columnWidth t.columns.labels)
    (row.map fun b => if b then "1" else "0")) t.rows body
  /-- At least two spaces stand between a label and the next one. -/
  apart : ∀ j l, t.columns.labels[j]? = some l → j + 1 < t.columns.labels.length →
    ∃ gap, 2 ≤ gap ∧
      j * columnWidth t.columns.labels + l.length + gap =
        (j + 1) * columnWidth t.columns.labels ∧
      ∀ k < gap, header[j * columnWidth t.columns.labels + l.length + k]? = some ' '

lemma length_le_columnWidth {labels : List String} {l : String} (h : l ∈ labels) :
    l.length + 2 ≤ columnWidth labels := by
  have hmax : (labels.map String.length).foldl max 0 ≤ (labels.map String.length).foldl max 0 :=
    Nat.le_refl _
  have hle := (foldl_max_le_iff.1 hmax).2 l.length (List.mem_map_of_mem h)
  rw [columnWidth]
  omega

lemma toList_valueCell (b : Bool) : (valueCell b).toList = [if b then '1' else '0'] := by
  cases b <;> rfl

/-- Every truth value fits into a column. -/
lemma isCell_valueCell (labels : List String) (b : Bool) :
    IsCell (columnWidth labels) (valueCell b) where
  ne_nil := by
    rw [toList_valueCell]
    exact List.cons_ne_nil _ _
  not_isBlank := by
    rw [toList_valueCell, List.forall_mem_singleton]
    cases b <;> decide
  length_le := by
    rw [← String.length_toList, toList_valueCell, List.length_singleton, columnWidth]
    omega

lemma toList_layout (t : Table) :
    t.layout.toList = ("--- Truth Table ---".toList ::
      lineChars (columnWidth t.columns.labels) t.columns.labels ::
      (t.rows.map fun row => lineChars (columnWidth t.columns.labels) (row.map valueCell)) ++
        [[], ("Classification: " ++ t.verdict.name).toList]).flatMap (· ++ ['\n']) := by
  have hheading : "--- Truth Table ---\n" = "--- Truth Table ---" ++ "\n" := by decide
  have hclass : "\nClassification: " = "\n" ++ "Classification: " := by decide
  have hnewline : "\n".toList = ['\n'] := by decide
  unfold layout
  simp only [hheading, hclass, String.toList_append, String.toList_join, toList_line, hnewline]
  simp [List.flatMap_map, toList_line]

/-- A line is found again in front of the newline that ends it. -/
lemma takeWhile_append_newline {cs ds : List Char} (h : '\n' ∉ cs) :
    (cs ++ '\n' :: ds).takeWhile (· != '\n') = cs := by
  have hall : ∀ c ∈ cs, (c != '\n') = true := by
    intro c hc
    rw [bne_iff_ne]
    rintro rfl
    exact h hc
  rw [List.takeWhile_append_of_pos hall, List.takeWhile_cons_of_neg (by decide), List.append_nil]

/-- A text has only one header. -/
lemma Shows.header_eq {text : String} {t u : Table} {header header' : List Char}
    {body body' : List (List Char)} (h : Shows text t header body)
    (h' : Shows text u header' body') : header = header' := by
  have htext := h.text_eq.symm.trans h'.text_eq
  simp only [List.cons_append, List.flatMap_cons, List.append_assoc, List.append_cancel_left_eq,
    List.cons.injEq, true_and] at htext
  have hfirst := congrArg (List.takeWhile (· != '\n')) htext
  rwa [takeWhile_append_newline (h.newline_notMem _ List.mem_cons_self),
    takeWhile_append_newline (h'.newline_notMem _ List.mem_cons_self)] at hfirst

section

variable {f g : Formula}

lemma isCell_of_mem_labels_table (hf : f.IsStandard) :
    ∀ l ∈ f.table.columns.labels, IsCell (columnWidth f.table.columns.labels) l := by
  intro l hl
  obtain ⟨u, hu, rfl⟩ := mem_labels_table.1 hl
  have hpos := u.length_label_pos
  exact
    { ne_nil := by
        rw [← List.length_pos_iff, String.length_toList]
        exact hpos
      not_isBlank := fun _ hc => Formula.not_isBlank_of_mem_label (hf.of_mem_subformulas hu) hc
      length_le := length_le_columnWidth hl }

lemma isCell_of_mem_row (labels : List String) (row : List Bool) :
    ∀ cell ∈ row.map valueCell, IsCell (columnWidth labels) cell := by
  intro cell hcell
  obtain ⟨b, -, rfl⟩ := List.mem_map.1 hcell
  exact isCell_valueCell labels b

lemma columns_alphabet_ne_nil (f : Formula) : f.columns f.alphabet ≠ [] :=
  List.ne_nil_of_mem (mem_columns_alphabet.2 f.mem_subformulas_self)

lemma shows_table (hf : f.IsStandard) :
    Shows f.table.layout f.table
      (lineChars (columnWidth f.table.columns.labels) f.table.columns.labels)
      (f.table.rows.map fun row =>
        lineChars (columnWidth f.table.columns.labels) (row.map valueCell)) := by
  have hlabels : f.table.columns.labels ≠ [] := by
    rw [labels_table]
    simpa using columns_alphabet_ne_nil f
  have hrows : ∀ row ∈ f.table.rows, row.map valueCell ≠ [] := by
    intro row hrow
    rw [rows_table] at hrow
    obtain ⟨i, -, rfl⟩ := List.mem_map.1 hrow
    simpa using columns_alphabet_ne_nil f
  have hcells := isCell_of_mem_labels_table hf
  have hheader := inColumns_lineChars hlabels hcells
  refine
    { text_eq := toList_layout f.table
      newline_notMem := ?_
      inColumns_header := hheader
      inColumns_body := ?_
      apart := fun j l hj hnext => hheader.spaces_between hcells hj hnext }
  · rw [List.forall_mem_cons, List.forall_mem_map]
    exact ⟨newline_notMem_lineChars hcells,
      fun row _ => newline_notMem_lineChars (isCell_of_mem_row _ row)⟩
  · rw [List.forall₂_map_right_iff, List.forall₂_same]
    exact fun row hrow => inColumns_lineChars (hrows row hrow) (isCell_of_mem_row _ row)

/-- **Different formulas have differently printed tables.** -/
lemma layout_injective (hf : f.IsStandard) (hg : g.IsStandard)
    (h : f.table.layout = g.table.layout) : f = g := by
  have hshows := shows_table hg
  rw [← h] at hshows
  have hword := congrArg Text.lastWord ((shows_table hf).header_eq hshows)
  rw [lastWord_lineChars (isCell_of_mem_labels_table hf) (getLast?_labels_table f),
    lastWord_lineChars (isCell_of_mem_labels_table hg) (getLast?_labels_table g),
    String.toList_inj] at hword
  exact label_injective hf.legible hg.legible hword

end

/-! ## The printed table -/

lemma layout_eq_of_render_eq_ok {t : Table} {text : String} (h : t.render = .ok text) :
    t.layout = text := by
  rw [render] at h
  split at h
  · cases h
  · exact Except.ok.inj h

/-- **A printed table shows its table and no other one.**  Every table is printed whose label fits
into a column. -/
theorem render_shows {ts : List Token} {t : Table} (hts : ∀ x ∈ ts, x.IsStandard)
    (ht : ofTokens ts = .ok t) :
    (t.formula.length + 2 ≤ maxWidth →
      ∃ text header body, t.render = .ok text ∧ Shows text t header body) ∧
    (maxWidth < t.formula.length + 2 → t.render = .error .tooWide) ∧
    ∀ us u text, (∀ x ∈ us, x.IsStandard) → ofTokens us = .ok u →
      t.render = .ok text → u.render = .ok text → t = u := by
  obtain ⟨f, hf, -, rfl⟩ := exists_eq_table hts ht
  refine ⟨fun hfits => ⟨_, _, _, render_table_of_le hfits, shows_table hf⟩,
    render_table_of_lt, ?_⟩
  intro us u text hus hu hprinted hprinted'
  obtain ⟨g, hg, -, rfl⟩ := exists_eq_table hus hu
  have hlayout := (layout_eq_of_render_eq_ok hprinted).trans
    (layout_eq_of_render_eq_ok hprinted').symm
  rw [layout_injective hf hg hlayout]

/-- The printed table of `A^B`.  It is the table of `(A^B)` as well, because they are printed in
the same way. -/
theorem render_shows_xor :
    let ts : List Token := [.letter 'A', .connective (.binary .xor), .letter 'B']
    let us : List Token := .leftParen :: ts ++ [.rightParen]
    (∀ x ∈ ts, x.IsStandard) ∧ (∀ x ∈ us, x.IsStandard) ∧
      ∃ t u text header body, ofTokens ts = .ok t ∧ ofTokens us = .ok u ∧
        t.render = .ok text ∧ u.render = .ok text ∧ Shows text t header body ∧ t = u ∧
        text = "--- Truth Table ---\n" ++ "A      B      (A^B)\n" ++ "0      0      0\n" ++
          "0      1      1\n" ++ "1      0      1\n" ++ "1      1      0\n" ++
          "\nClassification: Contingency\n" := by
  intro ts us
  have hts : ∀ x ∈ ts, x.IsStandard := by decide
  have hus : ∀ x ∈ us, x.IsStandard := by decide
  let f : Formula := .binary .xor (.letter 'A') (.letter 'B')
  have hf : f.IsStandard := (isStandard_iff rfl).2 hts
  have ht : ofTokens ts = .ok f.table := ofTokens_eq_table rfl hf.legible
  have hu : ofTokens us = .ok f.table := ofTokens_eq_table rfl hf.legible
  obtain ⟨hshown, -, honly⟩ := render_shows hts ht
  obtain ⟨text, header, body, htext, hshows⟩ := hshown (by decide)
  refine ⟨hts, hus, f.table, f.table, text, header, body, ht, hu, htext, htext, hshows,
    honly us _ text hus hu htext htext, ?_⟩
  have hlayout : f.table.render = .ok f.table.layout := render_table_of_le (by decide)
  rw [Except.ok.inj (htext.symm.trans hlayout)]
  decide +kernel

/-- The table of a formula of one letter is not printed. -/
theorem render_implies_doubled :
    let f : Formula := .binary .implies (Console.doubled 13) (Console.doubled 13)
    (∀ x ∈ f.tokens, x.IsStandard) ∧ ofTokens f.tokens = .ok f.table ∧
      f.table.render = .error .tooWide := by
  intro f
  have hf : f.IsStandard := Console.isStandard_implies_doubled 13
  refine ⟨isStandard_of_mem_tokens hf, ofTokens_tokens hf, render_table_of_lt ?_⟩
  rw [formula_table]
  exact Console.maxWidth_lt_length_label_doubled

end Table

end TruthTable
