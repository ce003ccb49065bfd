/-
# The table of a formula

The table of a token sequence is the table of the formula that the sequence converts to
(`Table.ofTokens_eq_table`).  Here `Formula.table` says without any fold what this table
is: the columns stand for the letters and the compound subformulas, and row `i` holds their
values under the valuation `Table.valuation letters i`.

Every valuation agrees on the letters with the one of some row, because the bits of the row
number can be chosen one by one (`Table.exists_valuation`).  So the final column holds all
values of the formula and no others (`Table.mem_finalColumn_table`).
-/
import Mathlib.Algebra.Group.Nat.Defs
import TruthTable.Proofs.Conversion
import TruthTable.Proofs.Row
import TruthTable.Table

namespace TruthTable

namespace Formula

/-! ## The letters of a formula -/

lemma letters_ne_nil (f : Formula) : f.letters ≠ [] := by
  induction f with
  | letter c => simp [letters]
  | not f ih => exact ih
  | binary op f g ihf ihg => simp [letters, ihf]

/-- The distinct letters of a formula in increasing order. -/
def alphabet (f : Formula) : List Char := Token.letters f.postorder

/-- The alphabet is the list of letters of every sequence with the letters of the formula. -/
lemma letters_eq_alphabet {ts : List Token} {f : Formula}
    (h : ts.filterMap Token.letter? = f.letters) : Token.letters ts = f.alphabet := by
  rw [alphabet, Token.letters, Token.letters, h, filterMap_letter?_postorder]

lemma mem_alphabet {f : Formula} {c : Char} : c ∈ f.alphabet ↔ c ∈ f.letters := by
  rw [alphabet, Token.mem_letters]
  induction f with
  | letter d => simp [postorder, letters]
  | not f ih => simp [postorder, letters, ih]
  | binary op f g ihf ihg => simp [postorder, letters, ihf, ihg]

/-- The columns of a table stand for the subformulas. -/
lemma mem_columns_alphabet {u f : Formula} : u ∈ f.columns f.alphabet ↔ u ∈ f.subformulas :=
  mem_columns fun _ => mem_alphabet

lemma nodup_alphabet (f : Formula) : f.alphabet.Nodup :=
  (Token.pairwise_letters f.postorder).imp Char.ne_of_lt

lemma alphabet_ne_nil (f : Formula) : f.alphabet ≠ [] := by
  obtain ⟨c, hc⟩ := List.exists_mem_of_ne_nil _ f.letters_ne_nil
  exact List.ne_nil_of_mem (mem_alphabet.2 hc)

@[simp] lemma alphabet_letter (c : Char) : (letter c).alphabet = [c] := rfl

/-- The last column of a table stands for the whole formula. -/
lemma getLast?_columns_alphabet (f : Formula) : (f.columns f.alphabet).getLast? = some f := by
  refine getLast?_columns fun c hc => ?_
  rw [hc, alphabet_letter]
  rfl

end Formula

namespace Table

open Formula

/-! ## The valuations of the rows -/

/-- The valuation of row `i` of a table with these letters; other letters are false. -/
def valuation (cs : List Char) (i : ℕ) : Char → Bool := fun c => (assignment cs i c).getD false

lemma assignment_eq_some_valuation {cs : List Char} {c : Char} (hc : c ∈ cs) (i : ℕ) :
    assignment cs i c = some (valuation cs i c) := by
  obtain ⟨j, hj⟩ := Option.isSome_iff_exists.1 (List.isSome_idxOf?.2 hc)
  simp [valuation, assignment, hj]

/-- Without repetitions, a member is first found where it stands. -/
lemma idxOf?_getElem {α : Type} [DecidableEq α] {as : List α} (has : as.Nodup) {j : ℕ}
    (hj : j < as.length) : as.idxOf? as[j] = some j := by
  refine List.idxOf?_eq_some_iff.2 ⟨hj, rfl, fun k hk heq => ?_⟩
  have hkj : k = j := (List.getElem_inj has).1 heq
  omega

/-- The first letter has the highest bit. -/
lemma valuation_getElem {cs : List Char} (hcs : cs.Nodup) (i : ℕ) {j : ℕ} (hj : j < cs.length) :
    valuation cs i cs[j] = i.testBit (cs.length - 1 - j) := by
  simp [valuation, assignment, idxOf?_getElem hcs hj]

lemma rowCount_eq (cs : List Char) : rowCount cs = 2 ^ cs.length := Nat.one_shiftLeft _

/-- **Every valuation is the one of some row**, as far as the letters go. -/
lemma exists_valuation {cs : List Char} (hcs : cs.Nodup) (v : Char → Bool) :
    ∃ i < rowCount cs, ∀ c ∈ cs, valuation cs i c = v c := by
  -- the letters from the right to the left are the bits from the lowest to the highest
  let bit : Fin cs.length → Bool := fun k => v (cs.get ⟨cs.length - 1 - k, by omega⟩)
  have hlt : Nat.ofBits bit < rowCount cs := by
    rw [rowCount_eq]
    exact Nat.ofBits_lt_two_pow bit
  refine ⟨Nat.ofBits bit, hlt, fun c hc => ?_⟩
  obtain ⟨j, hj, rfl⟩ := List.getElem_of_mem hc
  have hback : cs.length - 1 - (cs.length - 1 - j) = j := by omega
  rw [valuation_getElem hcs _ hj, Nat.testBit_ofBits_lt bit _ (by omega)]
  simp only [bit, hback, List.get_eq_getElem]

end Table

/-! ## The table -/

/-- The table of a formula: in each row the values of the letters and of the compound
subformulas. -/
def Formula.table (f : Formula) : Table :=
  let us := f.columns f.alphabet
  let rows := (List.range (Table.rowCount f.alphabet)).map fun i =>
    us.map (eval (Table.valuation f.alphabet i))
  { letters := f.alphabet
    columns := { labels := us.map label, formula := f.label }
    rows
    verdict := .ofValues (Table.lastValues rows) }

namespace Table

open Formula

@[simp] lemma formula_table (f : Formula) : f.table.formula = f.label := rfl

/-- The columns have the labels of the subformulas. -/
lemma mem_labels_table {f : Formula} {l : String} :
    l ∈ f.table.columns.labels ↔ ∃ u ∈ f.subformulas, u.label = l := by
  simp only [Formula.table, List.mem_map, mem_columns_alphabet]

/-- Different columns have different labels. -/
lemma nodup_labels_table {f : Formula} (hf : f.Legible) : f.table.columns.labels.Nodup := by
  refine List.Nodup.map_on ?_ (nodup_columns f.nodup_alphabet f)
  intro u hu w hw hlabel
  exact label_injective (hf.of_mem_subformulas (mem_columns_alphabet.1 hu))
    (hf.of_mem_subformulas (mem_columns_alphabet.1 hw)) hlabel

/-- The row number `i` holds the values under valuation `i`. -/
lemma rowValues_postorder {f : Formula} (hf : f.Legible) (formula : String) (i : ℕ) :
    rowValues f.postorder f.alphabet
        { labels := (f.columns f.alphabet).map label, formula } i =
      .ok ((f.columns f.alphabet).map (eval (valuation f.alphabet i))) := by
  have hv : ∀ c ∈ f.letters,
      assignment f.alphabet i c = some (valuation f.alphabet i c) :=
    fun c hc => assignment_eq_some_valuation (mem_alphabet.2 hc) i
  have hus : ∀ u ∈ f.columns f.alphabet, u ∈ f.subformulas :=
    fun u hu => mem_columns_alphabet.1 hu
  rw [rowValues, Row.evaluate_postorder hv]
  show Except.mapError _ ((f.row _).project _) = _
  rw [Row.project_row hf hus]
  rfl

lemma ofPostorder_postorder {f : Formula} (hf : f.Legible) :
    ofPostorder f.postorder f.alphabet = .ok f.table := by
  have hrows := Row.mapM_eq_pure_map fun i (_ : i ∈ List.range (rowCount f.alphabet)) =>
    rowValues_postorder hf f.label i
  rw [ofPostorder, Columns.ofPostorder_postorder hf]
  show Except.bind (List.mapM _ _) _ = _
  rw [hrows]
  rfl

/-- The conversion keeps the letters, so those of the sequence are those of the formula. -/
lemma filterMap_letter?_eq_letters {ts : List Token} {f : Formula}
    (hps : Postorder.ofTokens ts = .ok f.postorder) :
    ts.filterMap Token.letter? = f.letters := by
  rw [← Postorder.filterMap_letter?_ofTokens hps, filterMap_letter?_postorder]

lemma isStandard_of_ofTokens {ts : List Token} {f : Formula} (hts : ∀ t ∈ ts, t.IsStandard)
    (hps : Postorder.ofTokens ts = .ok f.postorder) : f.IsStandard :=
  (isStandard_iff (filterMap_letter?_eq_letters hps)).2 hts

/-- **The table of a token sequence** is the table of the formula it converts to. -/
lemma ofTokens_eq_table {ts : List Token} {f : Formula}
    (hps : Postorder.ofTokens ts = .ok f.postorder) (hf : f.Legible) :
    ofTokens ts = .ok f.table := by
  rw [ofTokens, letters_eq_alphabet (filterMap_letter?_eq_letters hps), hps]
  rw [if_neg (by simpa using f.alphabet_ne_nil)]
  exact ofPostorder_postorder hf

lemma ofTokens_of_reads {ts : List Token} {f : Formula} (hts : ∀ t ∈ ts, t.IsStandard)
    (h : Reads 0 ts f) : ofTokens ts = .ok f.table := by
  have hps : Postorder.ofTokens ts = .ok f.postorder := Postorder.ofTokens_of_reads h
  exact ofTokens_eq_table hps (isStandard_of_ofTokens hts hps).legible

/-- Where a computation succeeds, its first step does. -/
lemma exists_of_mapError_bind_eq_ok {ε ε' α β : Type} {x : Except ε α} {g : ε → ε'}
    {k : α → Except ε' β} {b : β} (h : (x.mapError g >>= k) = .ok b) :
    ∃ a, x = .ok a ∧ k a = .ok b := by
  cases x with
  | error e => cases h
  | ok a => exact ⟨a, rfl, h⟩

/-- Only sequences that convert to a formula have a table. -/
lemma exists_postorder_of_ofTokens {ts : List Token} {t : Table} (h : ofTokens ts = .ok t) :
    ∃ f : Formula, Postorder.ofTokens ts = .ok f.postorder := by
  rw [ofTokens] at h
  split at h
  · cases h
  · obtain ⟨ps, hps, htable⟩ := exists_of_mapError_bind_eq_ok h
    obtain ⟨cols, hcols, -⟩ := exists_of_mapError_bind_eq_ok htable
    obtain ⟨f, rfl⟩ := Columns.exists_postorder_of_ofPostorder hcols
    exact ⟨f, hps⟩

/-- **Every table of standard tokens is the table of a formula**, whether or not the tokens
are well-formed. -/
lemma exists_eq_table {ts : List Token} {t : Table} (hts : ∀ t ∈ ts, t.IsStandard)
    (h : ofTokens ts = .ok t) :
    ∃ f : Formula, f.IsStandard ∧ Postorder.ofTokens ts = .ok f.postorder ∧ t = f.table := by
  obtain ⟨f, hps⟩ := exists_postorder_of_ofTokens h
  have hf : f.IsStandard := isStandard_of_ofTokens hts hps
  have htable : ofTokens ts = .ok f.table := ofTokens_eq_table hps hf.legible
  exact ⟨f, hf, hps, Except.ok.inj (h.symm.trans htable)⟩

/-! ## The final column -/

lemma finalColumn_table (f : Formula) :
    f.table.finalColumn =
      (List.range (rowCount f.alphabet)).map fun i => f.eval (valuation f.alphabet i) := by
  rw [finalColumn, lastValues, Formula.table, List.filterMap_map, ← List.filterMap_eq_map]
  refine congrArg (List.filterMap · _) (funext fun i => ?_)
  simp [getLast?_columns_alphabet]

lemma verdict_table (f : Formula) : f.table.verdict = .ofValues f.table.finalColumn := rfl

/-- **The final column holds all values of the formula** and no others. -/
lemma mem_finalColumn_table {f : Formula} {b : Bool} :
    b ∈ f.table.finalColumn ↔ ∃ v, f.eval v = b := by
  rw [finalColumn_table, List.mem_map]
  constructor
  · rintro ⟨i, -, rfl⟩
    exact ⟨_, rfl⟩
  · rintro ⟨v, rfl⟩
    obtain ⟨i, hi, hv⟩ := exists_valuation f.nodup_alphabet v
    exact ⟨i, List.mem_range.2 hi, eval_congr fun c hc => hv c (mem_alphabet.2 hc)⟩

end Table

end TruthTable
