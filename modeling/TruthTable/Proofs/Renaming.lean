/-
# Other letters in the same formula

The letters of a sequence are replaced by other letters, different ones by different ones.  The
formula keeps its shape: its subformulas are the renamed subformulas, in the same order and with the
same repetitions, so the table has as many columns and rows as before.

Letters stand in alphabetical order in the table, so a renaming that changes their order permutes
columns and rows.  Every row of the new table has the values of some row of the old one, and
different rows those of different rows; hence the new final column is the old one in another order
(`Table.perm_finalColumn_rename`), and the verdict stays the same.

A renaming that keeps the order of the letters changes no row.  It only renames the labels of the
columns (`Table.rows_table_rename`, `Table.labels_table_rename`).
-/
import Mathlib.Data.List.Perm.Subperm
import TruthTable.Proofs.Shape
import TruthTable.Proofs.Substitution

namespace TruthTable

/-! ## Renaming -/

/-- Another letter in the place of a letter. -/
def Token.rename (r : Char → Char) : Token → Token
  | .letter c => .letter (r c)
  | t => t

/-- Other letters in the place of the letters `A` to `Z` of a label. -/
def Label.rename (r : Char → Char) (l : String) : String :=
  .ofList (l.toList.map fun c => if 'A' ≤ c ∧ c ≤ 'Z' then r c else c)

/-- Other letters in the place of the letters of a formula. -/
def Formula.rename (r : Char → Char) (f : Formula) : Formula := f.subst fun c => .letter (r c)

namespace Token

lemma map_rename_eq_replaceLetters (r : Char → Char) (ts : List Token) :
    ts.map (rename r) = replaceLetters (fun c => [.letter (r c)]) ts := by
  induction ts with
  | nil => rfl
  | cons t ts ih => cases t <;> simp [rename, ih]

lemma isStandard_of_mem_map_rename {r : Char → Char} {ts : List Token}
    (hts : ∀ t ∈ ts, t.IsStandard) (hr : ∀ c, .letter c ∈ ts → (letter (r c)).IsStandard) :
    ∀ t ∈ ts.map (rename r), t.IsStandard := by
  intro t ht
  obtain ⟨u, hu, rfl⟩ := List.mem_map.1 ht
  match u with
  | .letter c => exact hr c hu
  | .connective _ | .leftParen | .rightParen => exact hts _ hu

end Token

/-- The conversion does not look at letters. -/
lemma Postorder.ofTokens_map_rename {ts ps : List Token} (h : ofTokens ts = .ok ps)
    (r : Char → Char) : ofTokens (ts.map (Token.rename r)) = .ok (ps.map (Token.rename r)) := by
  rw [Token.map_rename_eq_replaceLetters, Token.map_rename_eq_replaceLetters]
  exact ofTokens_replaceLetters h fun c _ => places_letter (r c)

namespace Formula

variable {r : Char → Char} {f : Formula}

@[simp] lemma rename_letter (c : Char) : (letter c).rename r = letter (r c) := rfl

@[simp] lemma rename_not : (not f).rename r = not (f.rename r) := rfl

@[simp] lemma rename_binary (op : BinaryConnective) (g : Formula) :
    (binary op f g).rename r = binary op (f.rename r) (g.rename r) := rfl

lemma postorder_rename : (f.rename r).postorder = f.postorder.map (Token.rename r) := by
  rw [rename, postorder_subst, Token.map_rename_eq_replaceLetters]
  rfl

lemma letters_rename : (f.rename r).letters = f.letters.map r := by
  induction f with
  | letter c => rfl
  | not f ih => exact ih
  | binary op f g ihf ihg => simp [letters, ihf, ihg]

/-- The values are those of the formula under the renamed valuation. -/
lemma eval_rename (v : Char → Bool) : (f.rename r).eval v = f.eval (v ∘ r) := eval_subst v _ f

lemma isCompound_rename : (f.rename r).isCompound = f.isCompound := by
  cases f <;> rfl

lemma subformulas_rename : (f.rename r).subformulas = f.subformulas.map (rename r) := by
  induction f with
  | letter c => rfl
  | not f ih => simp [subformulas, ih]
  | binary op f g ihf ihg => simp [subformulas, ihf, ihg]

/-- The label of a renamed formula is the renamed label. -/
lemma label_rename (hf : f.IsStandard) : (f.rename r).label = Label.rename r f.label := by
  have hsymbol : ∀ op : BinaryConnective,
      (op.symbol.toList.map fun c => if 'A' ≤ c ∧ c ≤ 'Z' then r c else c) =
        op.symbol.toList := by
    intro op
    cases op <;> rfl
  rw [← String.toList_inj, Label.rename, String.toList_ofList]
  induction f with
  | letter c =>
    have hc : 'A' ≤ c ∧ c ≤ 'Z' := hf c (by simp [letters])
    simp [hc]
  | not f ih => simp [ih hf]
  | binary op f g ihf ihg =>
    have hf' : f.IsStandard := fun c hc => hf c (List.mem_append_left _ hc)
    have hg : g.IsStandard := fun c hc => hf c (List.mem_append_right _ hc)
    simp [ihf hf', ihg hg, hsymbol]

/-! ## Subformulas and columns -/

/-- Different formulas remain different. -/
lemma eq_of_rename_eq {S : Set Char} (hr : Set.InjOn r S) {u w : Formula}
    (hu : ∀ c ∈ u.letters, c ∈ S) (hw : ∀ c ∈ w.letters, c ∈ S) (h : u.rename r = w.rename r) :
    u = w := by
  induction u generalizing w with
  | letter c =>
    cases w with
    | letter d =>
      have hcd : r c = r d := by simpa using h
      rw [hr (hu c (by simp [letters])) (hw d (by simp [letters])) hcd]
    | not w | binary op w w' => simp at h
  | not u ih =>
    cases w with
    | not w =>
      have huw : u.rename r = w.rename r := by simpa using h
      rw [@ih w hu hw huw]
    | letter d | binary op w w' => simp at h
  | binary op u u' ih ih' =>
    cases w with
    | binary op' w w' =>
      simp only [rename_binary, binary.injEq] at h
      simp only [letters, List.mem_append, or_imp, forall_and] at hu hw
      obtain ⟨rfl, huw, huw'⟩ := h
      rw [ih hu.1 hw.1 huw, ih' hu.2 hw.2 huw']
    | letter d | not w => simp at h

section

variable (hr : Set.InjOn r {c | c ∈ f.letters})
include hr

/-- The compound subformulas are completed in the same order. -/
lemma compounds_rename : (f.rename r).compounds = f.compounds.map (rename r) := by
  have hcompound : isCompound ∘ rename r = isCompound := funext fun u => isCompound_rename
  have hinj : ∀ u ∈ f.subformulas.filter isCompound, ∀ w ∈ f.subformulas.filter isCompound,
      u.rename r = w.rename r → u = w := by
    intro u hu w hw
    exact eq_of_rename_eq hr (letters_subset_of_mem_subformulas (List.mem_of_mem_filter hu))
      (letters_subset_of_mem_subformulas (List.mem_of_mem_filter hw))
  rw [compounds, subformulas_rename, List.filter_map, hcompound, Columns.eraseDups_map _ hinj,
    compounds]

lemma columns_rename (cs : List Char) :
    (f.rename r).columns (cs.map r) = (f.columns cs).map (rename r) := by
  rw [columns, columns, compounds_rename hr, List.map_append, List.map_map, List.map_map]
  rfl

lemma nodup_map_alphabet : (f.alphabet.map r).Nodup :=
  f.nodup_alphabet.map_on fun _ hc _ hd => hr (mem_alphabet.1 hc) (mem_alphabet.1 hd)

/-- The alphabet is renamed, and then put into order again. -/
lemma perm_alphabet_rename : (f.rename r).alphabet.Perm (f.alphabet.map r) := by
  refine (List.perm_ext_iff_of_nodup (nodup_alphabet _) (nodup_map_alphabet hr)).2 fun c => ?_
  rw [mem_alphabet, letters_rename, List.mem_map, List.mem_map]
  simp only [mem_alphabet]

lemma length_alphabet_rename : (f.rename r).alphabet.length = f.alphabet.length := by
  rw [(perm_alphabet_rename hr).length_eq, List.length_map]

/-- A renaming that keeps the order of the letters keeps the alphabet in order. -/
lemma alphabet_rename (hlt : ∀ c ∈ f.letters, ∀ d ∈ f.letters, c < d → r c < r d) :
    (f.rename r).alphabet = f.alphabet.map r := by
  have hmap : (f.alphabet.map r).Pairwise (· < ·) := by
    refine List.pairwise_map.2 ((Token.pairwise_letters f.postorder).imp_of_mem ?_)
    exact fun hc hd => hlt _ (mem_alphabet.1 hc) _ (mem_alphabet.1 hd)
  refine (perm_alphabet_rename hr).eq_of_pairwise ?_ (Token.pairwise_letters _) hmap
  exact fun c d _ _ hcd hdc => absurd hcd (Char.lt_asymm hdc)

end

end Formula

lemma Verdict.ofValues_perm {as bs : List Bool} (h : as.Perm bs) : ofValues as = ofValues bs := by
  simp only [ofValues_eq, h.mem_iff]

namespace Table

open Formula

variable {r : Char → Char} {f : Formula}

/-! ## The table of a renamed formula -/

section

variable (hr : Set.InjOn r {c | c ∈ f.letters})
include hr

lemma rowCount_alphabet_rename : rowCount (f.rename r).alphabet = rowCount f.alphabet := by
  rw [rowCount, rowCount, length_alphabet_rename hr]

lemma size_columns_rename : (f.rename r).table.columns.size = f.table.columns.size := by
  rw [Columns.size, Columns.size, labels_table, labels_table, List.length_map, List.length_map,
    Formula.columns, Formula.columns, List.length_append, List.length_append, List.length_map,
    List.length_map, length_alphabet_rename hr, compounds_rename hr, List.length_map]

/-- The rows of a table by the values of the letters: every row of the renamed table has the values
of some row, and different rows have those of different rows. -/
lemma exists_row_of_rename :
    ∃ σ : ℕ → ℕ,
      ((List.range (rowCount f.alphabet)).map σ).Perm (List.range (rowCount f.alphabet)) ∧
      ∀ i, ∀ c ∈ f.letters,
        valuation f.alphabet (σ i) c = valuation (f.rename r).alphabet i (r c) := by
  have hrow : ∀ i, ∃ k < rowCount f.alphabet, ∀ c ∈ f.alphabet,
      valuation f.alphabet k c = valuation (f.rename r).alphabet i (r c) :=
    fun i => exists_valuation f.nodup_alphabet fun c => valuation (f.rename r).alphabet i (r c)
  choose σ hlt hσ using hrow
  -- a map of a finite range into itself is a permutation if it is injective
  refine ⟨σ, ?_, fun i c hc => hσ i c (mem_alphabet.2 hc)⟩
  have hinj : ∀ i ∈ List.range (rowCount f.alphabet), ∀ k ∈ List.range (rowCount f.alphabet),
      σ i = σ k → i = k := by
    intro i hi k hk hik
    have hbound : rowCount f.alphabet = 2 ^ (f.rename r).alphabet.length := by
      rw [rowCount_eq, length_alphabet_rename hr]
    rw [List.mem_range, hbound] at hi hk
    refine eq_of_map_valuation_eq (nodup_alphabet _) hi hk (List.map_inj_left.2 fun d hd => ?_)
    obtain ⟨c, hc, rfl⟩ := List.mem_map.1 ((perm_alphabet_rename hr).mem_iff.1 hd)
    rw [← hσ i c hc, ← hσ k c hc, hik]
  have hnodup : ((List.range (rowCount f.alphabet)).map σ).Nodup := List.nodup_range.map_on hinj
  have hsubset : (List.range (rowCount f.alphabet)).map σ ⊆ List.range (rowCount f.alphabet) := by
    intro k hk
    obtain ⟨i, -, rfl⟩ := List.mem_map.1 hk
    exact List.mem_range.2 (hlt i)
  exact (List.subperm_of_subset hnodup hsubset).perm_of_length_le (by simp)

/-- **Renaming permutes the final column.** -/
lemma perm_finalColumn_rename : (f.rename r).table.finalColumn.Perm f.table.finalColumn := by
  obtain ⟨σ, hperm, hσ⟩ := exists_row_of_rename hr
  have hvalue : ∀ i, (f.rename r).eval (valuation (f.rename r).alphabet i) =
      f.eval (valuation f.alphabet (σ i)) := by
    intro i
    rw [eval_rename]
    exact eval_congr fun c hc => (hσ i c hc).symm
  have hcolumn : (f.rename r).table.finalColumn =
      ((List.range (rowCount f.alphabet)).map σ).map fun k => f.eval (valuation f.alphabet k) := by
    rw [finalColumn_table, rowCount_alphabet_rename hr, List.map_map]
    exact congrArg (List.map · _) (funext hvalue)
  rw [hcolumn, finalColumn_table]
  exact hperm.map _

/-! ## The order of the letters -/

/-- A letter has the bits of its place, whatever it is called. -/
lemma valuation_map_alphabet (i : ℕ) {c : Char} (hc : c ∈ f.letters) :
    valuation (f.alphabet.map r) i (r c) = valuation f.alphabet i c := by
  obtain ⟨j, hj, rfl⟩ := List.getElem_of_mem (mem_alphabet.2 hc)
  have hj' : j < (f.alphabet.map r).length := by rwa [List.length_map]
  rw [valuation_getElem f.nodup_alphabet i hj, ← List.getElem_map r (h := hj'),
    valuation_getElem (nodup_map_alphabet hr) i hj', List.length_map]

variable (hlt : ∀ c ∈ f.letters, ∀ d ∈ f.letters, c < d → r c < r d)
include hlt

/-- If the order of the letters is kept, every row is. -/
lemma rows_table_rename : (f.rename r).table.rows = f.table.rows := by
  rw [rows_table, rows_table, rowCount_alphabet_rename hr, alphabet_rename hr hlt,
    columns_rename hr]
  refine List.map_congr_left fun i _ => ?_
  rw [List.map_map]
  refine List.map_congr_left fun u hu => ?_
  have hsubset : u.letters ⊆ f.letters :=
    letters_subset_of_mem_subformulas (mem_columns_alphabet.1 hu)
  rw [Function.comp_apply, eval_rename]
  exact eval_congr fun c hc => valuation_map_alphabet hr i (hsubset hc)

lemma labels_table_rename (hf : f.IsStandard) :
    (f.rename r).table.columns.labels = f.table.columns.labels.map (Label.rename r) := by
  rw [labels_table, labels_table, alphabet_rename hr hlt, columns_rename hr, List.map_map,
    List.map_map]
  refine List.map_congr_left fun u hu => ?_
  exact label_rename (hf.of_mem_subformulas (mem_columns_alphabet.1 hu))

end

/-- **Letters matter only through their order.**  With other letters, different ones for different
ones, a sequence has a table of the same size, with the same verdict and with as many true values
in the final column.  If the letters keep their order, the rows are the same, and the labels are
the renamed labels. -/
theorem renaming_keeps_table {ts : List Token} {t : Table} {r : Char → Char}
    (hts : ∀ x ∈ ts, x.IsStandard) (h : ofTokens ts = .ok t)
    (hr : Set.InjOn r {c | .letter c ∈ ts})
    (hrange : ∀ c, .letter c ∈ ts → (Token.letter (r c)).IsStandard) :
    ∃ t', ofTokens (ts.map (Token.rename r)) = .ok t' ∧
      t'.columns.size = t.columns.size ∧ t'.rows.length = t.rows.length ∧
      t'.verdict = t.verdict ∧ t'.finalColumn.count true = t.finalColumn.count true ∧
      ((∀ c d, .letter c ∈ ts → .letter d ∈ ts → c < d → r c < r d) →
        t'.rows = t.rows ∧ t'.columns.labels = t.columns.labels.map (Label.rename r)) := by
  obtain ⟨f, hf, hps, rfl⟩ := exists_eq_table hts h
  have hmem : ∀ c, c ∈ f.letters ↔ .letter c ∈ ts := by
    intro c
    rw [← filterMap_letter?_eq_letters hps, Token.mem_filterMap_letter?]
  have hr : Set.InjOn r {c | c ∈ f.letters} := by simpa only [hmem] using hr
  have hps' : Postorder.ofTokens (ts.map (Token.rename r)) = .ok (f.rename r).postorder := by
    rw [postorder_rename]
    exact Postorder.ofTokens_map_rename hps r
  have hf' : (f.rename r).IsStandard :=
    isStandard_of_ofTokens (Token.isStandard_of_mem_map_rename hts hrange) hps'
  have hperm := perm_finalColumn_rename hr
  refine ⟨(f.rename r).table, ofTokens_eq_table hps' hf'.legible, size_columns_rename hr, ?_, ?_,
    hperm.count_eq true, fun hlt => ?_⟩
  · rw [rows_table, rows_table, List.length_map, List.length_map, rowCount_alphabet_rename hr]
  · rw [verdict_table, verdict_table, Verdict.ofValues_perm hperm]
  · have hlt : ∀ c ∈ f.letters, ∀ d ∈ f.letters, c < d → r c < r d :=
      fun c hc d hd => hlt c d ((hmem c).1 hc) ((hmem d).1 hd)
    exact ⟨rows_table_rename hr hlt, labels_table_rename hr hlt hf⟩

/-- If `A` and `B` change places in `A&~B`, the true row moves.  With `K` and `X` in their place
the rows are those of `A&~B`. -/
theorem renaming_keeps_table_and_not :
    let ts : List Token :=
      [.letter 'A', .connective (.binary .and), .connective .not, .letter 'B']
    let swap : Char → Char := fun c => if c = 'A' then 'B' else 'A'
    let shift : Char → Char := fun c => if c = 'A' then 'K' else 'X'
    ∃ t t' t'', ofTokens ts = .ok t ∧
      ofTokens (ts.map (Token.rename swap)) = .ok t' ∧
      ofTokens (ts.map (Token.rename shift)) = .ok t'' ∧
      t.finalColumn = [false, false, true, false] ∧
      t'.finalColumn.count true = 1 ∧ t'.verdict = .contingency ∧
      t''.rows = t.rows ∧ t''.columns.labels = ["K", "X", "~X", "(K&~X)"] := by
  intro ts swap shift
  have hts : ∀ x ∈ ts, x.IsStandard := by decide
  have hmem : ∀ c, .letter c ∈ ts ↔ c = 'A' ∨ c = 'B' := by simp [ts]
  let f : Formula := .binary .and (.letter 'A') (.not (.letter 'B'))
  have hf : f.IsStandard := (isStandard_iff rfl).2 hts
  have h : ofTokens ts = .ok f.table := ofTokens_eq_table rfl hf.legible
  have hinj : ∀ r : Char → Char, r 'A' ≠ r 'B' → Set.InjOn r {c | .letter c ∈ ts} := by
    intro r hne c hc d hd hcd
    rcases (hmem c).1 hc with rfl | rfl <;> rcases (hmem d).1 hd with rfl | rfl
    · rfl
    · exact absurd hcd hne
    · exact absurd hcd.symm hne
    · rfl
  have hrange : ∀ r : Char → Char, (Token.letter (r 'A')).IsStandard →
      (Token.letter (r 'B')).IsStandard →
      ∀ c, .letter c ∈ ts → (Token.letter (r c)).IsStandard := by
    intro r hA hB c hc
    rcases (hmem c).1 hc with rfl | rfl
    · exact hA
    · exact hB
  have hlt : ∀ c d, .letter c ∈ ts → .letter d ∈ ts → c < d → shift c < shift d := by
    intro c d hc hd hcd
    rcases (hmem c).1 hc with rfl | rfl <;> rcases (hmem d).1 hd with rfl | rfl <;>
      revert hcd <;> decide
  obtain ⟨t', ht', -, -, hverdict, hcount, -⟩ := renaming_keeps_table hts h
    (hinj swap (by decide)) (hrange swap (by decide) (by decide))
  obtain ⟨t'', ht'', -, -, -, -, hkeep⟩ := renaming_keeps_table hts h
    (hinj shift (by decide)) (hrange shift (by decide) (by decide))
  obtain ⟨hrows, hlabels⟩ := hkeep hlt
  refine ⟨f.table, t', t'', h, ht', ht'', by decide, ?_, ?_, hrows, ?_⟩
  · rw [hcount]
    decide
  · rw [hverdict]
    decide
  · rw [hlabels]
    decide

end Table

end TruthTable
