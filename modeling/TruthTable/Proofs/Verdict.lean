/-
# The verdict is right

The verdict of a table looks at the values in the final column.  These are all values of
the formula, so the verdict says how the formula behaves under all valuations, not only
under those of the rows (`describes_table`).

Together with the reading and the conversion this covers the whole way from a text to the
verdict: the formula is the one that the levels of the grammar assign to the text, and its
truth is defined by recursion, without any table.
-/
import Mathlib.Algebra.Group.Nat.Defs
import TruthTable.Proofs.Lexer
import TruthTable.Proofs.Table

namespace TruthTable

/-! ## Verdicts on lists of values -/

namespace Verdict

/-- The verdict depends on which values occur. -/
lemma ofValues_eq (values : List Bool) :
    ofValues values =
      if false ∉ values then .tautology
      else if true ∉ values then .contradiction
      else .contingency := by
  have htrue : values.all id = true ↔ false ∉ values := by
    simp [List.all_eq_true, Bool.forall_bool]
  have hfalse : values.all not = true ↔ true ∉ values := by
    simp [List.all_eq_true, Bool.forall_bool]
  simp only [ofValues, htrue, hfalse]

lemma ofValues_eq_tautology_iff {values : List Bool} :
    ofValues values = .tautology ↔ false ∉ values := by
  rw [ofValues_eq]
  split_ifs <;> simp_all

/-- A list without any values gets the verdict of a tautology. -/
lemma ofValues_eq_contradiction_iff {values : List Bool} :
    ofValues values = .contradiction ↔ false ∈ values ∧ true ∉ values := by
  rw [ofValues_eq]
  split_ifs <;> simp_all

lemma ofValues_eq_contingency_iff {values : List Bool} :
    ofValues values = .contingency ↔ true ∈ values ∧ false ∈ values := by
  rw [ofValues_eq]
  split_ifs <;> simp_all

end Verdict

/-! ## Valuations by truth values and by propositions -/

namespace Formula

/-- Whether a formula holds under a valuation by propositions is its truth value. -/
lemma holds_iff_eval (v : Char → Prop) [DecidablePred v] (f : Formula) :
    f.Holds v ↔ f.eval (fun c => decide (v c)) = true := by
  have hv : (fun c => decide (v c) = true) = v := funext fun c => propext decide_eq_true_iff
  rw [eval_eq_true_iff, hv]

lemma exists_holds_iff {f : Formula} : (∃ v, f.Holds v) ↔ ∃ v, f.eval v = true := by
  classical
  constructor
  · rintro ⟨v, hv⟩
    exact ⟨_, (holds_iff_eval v f).1 hv⟩
  · rintro ⟨v, hv⟩
    exact ⟨_, (eval_eq_true_iff v f).1 hv⟩

/-- Where the formula does not hold, its negation does. -/
lemma exists_not_holds_iff {f : Formula} : (∃ v, ¬f.Holds v) ↔ ∃ v, f.eval v = false := by
  have hnot : (∃ v, (not f).Holds v) ↔ ∃ v, (not f).eval v = true := exists_holds_iff
  simpa [Holds, eval] using hnot

end Formula

/-! ## The whole table -/

namespace Table

open Formula

/-- The valuation `v` gives the letters of the table the truth values of row `i`: the `j`-th
of `n` letters has the bit `n - 1 - j` of `i`. -/
def InRow (t : Table) (i : ℕ) (v : Char → Prop) : Prop :=
  ∀ j c, t.letters[j]? = some c → (v c ↔ i.testBit (t.letters.length - 1 - j) = true)

/-- What a table says about its formula. -/
structure Describes (t : Table) (f : Formula) : Prop where
  letters_increase : t.letters.Pairwise (· < ·)
  mem_letters : ∀ c, c ∈ t.letters ↔ c ∈ f.letters
  length_finalColumn : t.finalColumn.length = 2 ^ t.letters.length
  /-- Each entry of the final column is the truth value in its row. -/
  finalColumn : ∀ i < 2 ^ t.letters.length, ∀ v, t.InRow i v →
    ∃ b, t.finalColumn[i]? = some b ∧ (b = true ↔ f.Holds v)
  tautology : t.verdict = .tautology ↔ ∀ v, f.Holds v
  contradiction : t.verdict = .contradiction ↔ ∀ v, ¬f.Holds v
  contingency : t.verdict = .contingency ↔ (∃ v, f.Holds v) ∧ ∃ v, ¬f.Holds v

lemma true_mem_finalColumn_table {f : Formula} :
    true ∈ f.table.finalColumn ↔ ∃ v, f.Holds v := by
  rw [mem_finalColumn_table, exists_holds_iff]

lemma false_mem_finalColumn_table {f : Formula} :
    false ∈ f.table.finalColumn ↔ ∃ v, ¬f.Holds v := by
  rw [mem_finalColumn_table, exists_not_holds_iff]

/-- The entry of row `i` is the truth value under every valuation with the values of the row. -/
lemma getElem?_finalColumn_table {f : Formula} {i : ℕ} (hi : i < rowCount f.alphabet)
    {v : Char → Bool} (hv : f.table.InRow i (v · = true)) :
    f.table.finalColumn[i]? = some (f.eval v) := by
  have hvalue : ∀ c ∈ f.letters, valuation f.alphabet i c = v c := by
    intro c hc
    obtain ⟨j, hj, rfl⟩ := List.getElem_of_mem (mem_alphabet.2 hc)
    have hbit := hv j f.alphabet[j] (List.getElem?_eq_getElem hj)
    rw [valuation_getElem f.nodup_alphabet i hj]
    exact Bool.eq_iff_iff.2 hbit.symm
  rw [finalColumn_table, List.getElem?_map, List.getElem?_range hi, Option.map_some,
    eval_congr hvalue]

/-- **The table of a formula describes it.** -/
lemma describes_table (f : Formula) : f.table.Describes f where
  letters_increase := Token.pairwise_letters f.postorder
  mem_letters _ := mem_alphabet
  length_finalColumn := by
    rw [finalColumn_table, List.length_map, List.length_range]
    exact rowCount_eq f.alphabet
  finalColumn i hi v hv := by
    classical
    have hrow : f.table.InRow i (fun c => decide (v c) = true) := by
      intro j c hc
      exact decide_eq_true_iff.trans (hv j c hc)
    have hi' : i < rowCount f.alphabet := by
      rw [rowCount_eq]
      exact hi
    exact ⟨_, getElem?_finalColumn_table hi' hrow, (holds_iff_eval v f).symm⟩
  tautology := by
    rw [verdict_table, Verdict.ofValues_eq_tautology_iff, false_mem_finalColumn_table]
    simp only [not_exists, not_not]
  contradiction := by
    rw [verdict_table, Verdict.ofValues_eq_contradiction_iff, true_mem_finalColumn_table,
      false_mem_finalColumn_table, not_exists]
    -- a formula that never holds is false somewhere, because there are valuations
    exact ⟨And.right, fun h => ⟨⟨fun _ => True, h _⟩, h⟩⟩
  contingency := by
    rw [verdict_table, Verdict.ofValues_eq_contingency_iff, true_mem_finalColumn_table,
      false_mem_finalColumn_table]

/-- The verdict in terms of truth values. -/
lemma verdict_table_eq_tautology_iff {f : Formula} :
    f.table.verdict = .tautology ↔ ∀ v, f.eval v = true := by
  rw [verdict_table, Verdict.ofValues_eq_tautology_iff, mem_finalColumn_table]
  simp

lemma verdict_table_eq_contradiction_iff {f : Formula} :
    f.table.verdict = .contradiction ↔ ∀ v, f.eval v = false := by
  rw [verdict_table, Verdict.ofValues_eq_contradiction_iff, mem_finalColumn_table,
    mem_finalColumn_table]
  constructor
  · rintro ⟨-, h⟩ v
    exact Bool.eq_false_iff.2 fun hv => h ⟨v, hv⟩
  · intro h
    exact ⟨⟨fun _ => true, h _⟩, by simp [h]⟩

/-! ## From the text to the verdict -/

/-- **A well-formed text has a table, and the table describes its formula**: the one formula
that the levels of the grammar assign to the text. -/
theorem exists_describes_of_tokenize {s : String} {ts : List Token}
    (hs : Token.tokenize s = .ok ts) (hts : Token.isWellFormed ts = true) :
    ∃ f, (∀ g, Reads 0 ts g ↔ g = f) ∧ ∃ t, ofTokens ts = .ok t ∧ t.Describes f := by
  obtain ⟨f, hf⟩ := Formula.exists_reads_of_derivable (Token.derivable_of_isWellFormed hts)
  have hunique : ∀ g, Reads 0 ts g ↔ g = f := by
    intro g
    constructor
    · exact fun hg => Postorder.reads_unique hg hf
    · rintro rfl
      exact hf
  have htable : ofTokens ts = .ok f.table :=
    ofTokens_of_reads (Token.isStandard_of_tokenize hs) hf
  exact ⟨f, hunique, f.table, htable, describes_table f⟩

/-- The text `A|~A` is a tautology, found by its table. -/
theorem exists_describes_of_tokenize_excluded_middle :
    ∃ ts t, Token.tokenize "A|~A" = .ok ts ∧ ofTokens ts = .ok t ∧ t.verdict = .tautology := by
  have hs : Token.tokenize "A|~A" = .ok
      [.letter 'A', .connective (.binary .or), .connective .not, .letter 'A'] := by decide
  obtain ⟨f, hf, t, ht, hdescribes⟩ := exists_describes_of_tokenize hs (by decide)
  have hnot : Reads unitLevel [.connective .not, .letter 'A'] (.not (.letter 'A')) :=
    .not (.letter 'A')
  have hor := Reads.binary .or ((Reads.letter 'A').loosen (by decide)) (hnot.loosen (by decide))
  obtain rfl := (hf _).1 (hor.loosen (by decide))
  refine ⟨_, t, hs, ht, hdescribes.tautology.2 fun v => ?_⟩
  exact Classical.em _

end Table

end TruthTable
