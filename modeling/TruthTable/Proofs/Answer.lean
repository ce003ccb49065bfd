/-
# The answer to unvalidated tokens

A table may be asked for of any sequence of tokens.  `Table.Answer` says what the answer is,
by conditions on the sequence that are looked at in a fixed order.  Its cases exclude each
other, and none of them is a fault.  The answer that is given is always the one of
`Table.Answer` (`Table.ofTokensWithin_eq_iff_answer`).

The numbers on the way to the answer are small and the lists are long enough
(`Table.InBounds`).  There are at most 26 letters, because a letter that can occur in a text
is one of `A` to `Z`; and every row has a value for each column.
-/
import Mathlib.Data.Finset.Card
import TruthTable.Proofs.Agreement
import TruthTable.Proofs.Balance

namespace TruthTable

namespace Token

/-! ## The number of letters -/

/-- The number of distinct letters. -/
def letterCount (ts : List Token) : ℕ := (ts.filterMap letter?).toFinset.card

lemma length_letters (ts : List Token) : (letters ts).length = letterCount ts := by
  have hnodup : (letters ts).Nodup := (pairwise_letters ts).imp Char.ne_of_lt
  have hsame : (letters ts).toFinset = (ts.filterMap letter?).toFinset :=
    List.toFinset.ext fun c => mem_letters.trans mem_filterMap_letter?.symm
  rw [letterCount, ← hsame, List.toFinset_card_of_nodup hnodup]

lemma letters_eq_nil_iff {ts : List Token} : letters ts = [] ↔ ∀ c, letter c ∉ ts := by
  simp only [List.eq_nil_iff_forall_not_mem, mem_letters]

/-- The alphabet has 26 letters. -/
lemma length_letters_le {ts : List Token} (hts : ∀ t ∈ ts, t.IsStandard) :
    (letters ts).length ≤ 26 := by
  have hnodup : ((letters ts).map Char.toNat).Nodup :=
    (pairwise_letters ts).map Char.toNat fun _ _ h => Nat.ne_of_lt h
  have hsub : (letters ts).map Char.toNat ⊆ List.range' 'A'.toNat 26 := by
    intro n hn
    obtain ⟨c, hc, rfl⟩ := List.mem_map.1 hn
    obtain ⟨hA, hZ⟩ : 'A' ≤ c ∧ c ≤ 'Z' := hts _ (mem_letters.1 hc)
    have hA' : 'A'.toNat ≤ c.toNat := hA
    have hZ' : c.toNat ≤ 'Z'.toNat := hZ
    rw [List.mem_range'_1]
    exact ⟨hA', Nat.lt_of_le_of_lt hZ' (by decide)⟩
  simpa using hnodup.length_le_of_subset hsub

end Token

namespace Table

open Formula
open Token (letterCount Unbalanced)

/-! ## The cases -/

/-- The limit allows as many letters as there are. -/
def Allows (limit : Option ℕ) (ts : List Token) : Prop :=
  ∀ allowed, limit = some allowed → letterCount ts ≤ allowed

lemma allows_none (ts : List Token) : Allows none ts := by simp [Allows]

lemma allows_or_exceeded (limit : Option ℕ) (ts : List Token) :
    Allows limit ts ∨ ∃ allowed, limit = some allowed ∧ allowed < letterCount ts := by
  by_cases h : Allows limit ts
  · exact .inl h
  · simp only [Allows, not_forall, Nat.not_le] at h
    obtain ⟨allowed, hlimit, hlt⟩ := h
    exact .inr ⟨allowed, hlimit, hlt⟩

/-- What is answered to a sequence of tokens.  Each case supposes that the conditions of the
cases before it are not met. -/
inductive Answer (limit : Option ℕ) (ts : List Token) : Except Failure Table → Prop
  /-- The limit goes first, whatever else is wrong. -/
  | tooManyLetters {allowed : ℕ} : limit = some allowed → allowed < letterCount ts →
      Answer limit ts (.error (.error (.tooManyLetters (letterCount ts) allowed)))
  | noLetters : Allows limit ts → (∀ c, .letter c ∉ ts) →
      Answer limit ts (.error (.error .noLetters))
  | unbalanced {c : Char} : Allows limit ts → .letter c ∈ ts → Unbalanced ts →
      Answer limit ts (.error (.error .unbalancedParentheses))
  /-- The converted sequence is not the postorder of any formula. -/
  | malformed {c : Char} {ps : List Token} : Allows limit ts → .letter c ∈ ts → ¬Unbalanced ts →
      Postorder.ofTokens ts = .ok ps → (∀ f : Formula, ps ≠ f.postorder) →
      Answer limit ts (.error (.error .malformed))
  /-- The table is the one that is made without a limit. -/
  | table {c : Char} {f : Formula} {t : Table} : Allows limit ts → .letter c ∈ ts →
      ¬Unbalanced ts → Postorder.ofTokens ts = .ok f.postorder → ofTokens ts = .ok t →
      Answer limit ts (.ok t)

section

variable {limit : Option ℕ} {ts ps : List Token}

lemma ofTokensWithin_of_allows (h : Allows limit ts) : ofTokensWithin limit ts = ofTokens ts := by
  cases limit with
  | none => rfl
  | some allowed =>
    have hle : (Token.letters ts).length ≤ allowed := by
      rw [Token.length_letters]
      exact h allowed rfl
    exact if_neg (Nat.not_lt.2 hle)

lemma ofTokens_of_no_letter (h : ∀ c, .letter c ∉ ts) :
    ofTokens ts = .error (.error .noLetters) := by
  rw [ofTokens, Token.letters_eq_nil_iff.2 h]
  rfl

/-- With a letter, the table comes from the converted sequence. -/
lemma ofTokens_of_letter {c : Char} (hc : .letter c ∈ ts) :
    ofTokens ts =
      (Postorder.ofTokens ts).mapError .error >>= fun ps => ofPostorder ps (Token.letters ts) := by
  have hne : (Token.letters ts).isEmpty = false := by
    rw [List.isEmpty_eq_false_iff]
    exact List.ne_nil_of_mem (Token.mem_letters.2 hc)
  rw [ofTokens, hne]
  rfl

lemma ofTokens_of_unbalanced {c : Char} (hc : .letter c ∈ ts) (h : Unbalanced ts) :
    ofTokens ts = .error (.error .unbalancedParentheses) := by
  rw [ofTokens_of_letter hc, Postorder.ofTokens_eq_error_iff.2 ⟨rfl, h⟩]
  rfl

lemma ofTokens_of_no_formula {c : Char} (hc : .letter c ∈ ts)
    (hps : Postorder.ofTokens ts = .ok ps) (h : ∀ f : Formula, ps ≠ f.postorder) :
    ofTokens ts = .error (.error .malformed) := by
  rw [ofTokens_of_letter hc, hps]
  show ofPostorder ps (Token.letters ts) = _
  rw [ofPostorder, Row.ofPostorder_eq_malformed h]
  rfl

/-- The answer of `Answer` is given. -/
lemma Answer.ofTokensWithin_eq {r : Except Failure Table} (h : Answer limit ts r) :
    ofTokensWithin limit ts = r := by
  cases h with
  | tooManyLetters hlimit hlt =>
    subst hlimit
    rw [← Token.length_letters] at hlt ⊢
    exact if_pos hlt
  | noLetters hallows hno => rw [ofTokensWithin_of_allows hallows, ofTokens_of_no_letter hno]
  | unbalanced hallows hc hts =>
    rw [ofTokensWithin_of_allows hallows, ofTokens_of_unbalanced hc hts]
  | malformed hallows hc _ hps hno =>
    rw [ofTokensWithin_of_allows hallows, ofTokens_of_no_formula hc hps hno]
  | table hallows _ _ _ ht => rw [ofTokensWithin_of_allows hallows, ht]

/-- There is an answer in any case. -/
lemma exists_answer (hts : ∀ t ∈ ts, t.IsStandard) (limit : Option ℕ) :
    ∃ r, Answer limit ts r := by
  rcases allows_or_exceeded limit ts with hallows | ⟨allowed, hlimit, hlt⟩
  · by_cases hletter : ∃ c, .letter c ∈ ts
    · obtain ⟨c, hc⟩ := hletter
      by_cases hbalance : Unbalanced ts
      · exact ⟨_, .unbalanced hallows hc hbalance⟩
      · obtain ⟨ps, hps⟩ := Postorder.exists_ofTokens_eq_ok_iff.2 hbalance
        by_cases hformula : ∃ f : Formula, ps = f.postorder
        · obtain ⟨f, rfl⟩ := hformula
          have hf : f.IsStandard := isStandard_of_ofTokens hts hps
          exact ⟨_, .table hallows hc hbalance hps (ofTokens_eq_table hps hf.legible)⟩
        · exact ⟨_, .malformed hallows hc hbalance hps fun f hf => hformula ⟨f, hf⟩⟩
    · exact ⟨_, .noLetters hallows fun c hc => hletter ⟨c, hc⟩⟩
  · exact ⟨_, .tooManyLetters hlimit hlt⟩

end

/-! ## Bounds -/

/-- Nothing is out of bounds on the way to the table of a sequence, in words of 64 bits. -/
structure InBounds (ts : List Token) : Prop where
  /-- One is shifted by the number of letters, and a row number by less than that. -/
  shift_lt : (Token.letters ts).length < 64
  /-- The shift for a letter is found by subtracting its position and one. -/
  position_lt : ∀ c j, (Token.letters ts).idxOf? c = some j → j + 1 ≤ (Token.letters ts).length
  /-- There is a last column, and it is that of the formula. -/
  last_column : ∀ ps cols, Postorder.ofTokens ts = .ok ps →
    Columns.ofPostorder ps (Token.letters ts) = .ok cols →
      1 ≤ cols.size ∧ cols.labels.getLast? = some cols.formula
  /-- With the columns made, no row fails, and each has a value in every column. -/
  rows : ∀ ps cols, Postorder.ofTokens ts = .ok ps →
    Columns.ofPostorder ps (Token.letters ts) = .ok cols → ∀ i,
      ∃ values, rowValues ps (Token.letters ts) cols i = .ok values ∧ values.length = cols.size

section

variable {ts ps : List Token}

/-- With the columns made, there is a formula, and the columns are those of its table. -/
lemma exists_formula_of_columns {cols : Columns} (hts : ∀ t ∈ ts, t.IsStandard)
    (hps : Postorder.ofTokens ts = .ok ps)
    (hcols : Columns.ofPostorder ps (Token.letters ts) = .ok cols) :
    ∃ f : Formula, f.Legible ∧ ps = f.postorder ∧ Token.letters ts = f.alphabet ∧
      cols = f.table.columns := by
  obtain ⟨f, rfl⟩ := Columns.exists_postorder_of_ofPostorder hcols
  have hf : f.Legible := (isStandard_of_ofTokens hts hps).legible
  have hletters : Token.letters ts = f.alphabet :=
    letters_eq_alphabet (filterMap_letter?_eq_letters hps)
  rw [hletters, Columns.ofPostorder_postorder hf] at hcols
  exact ⟨f, hf, rfl, hletters, (Except.ok.inj hcols).symm⟩

lemma getLast?_labels_table (f : Formula) :
    f.table.columns.labels.getLast? = some f.table.columns.formula := by
  show ((f.columns f.alphabet).map label).getLast? = some f.label
  rw [List.getLast?_map, getLast?_columns_alphabet]
  rfl

lemma inBounds (hts : ∀ t ∈ ts, t.IsStandard) : InBounds ts where
  shift_lt := Nat.lt_of_le_of_lt (Token.length_letters_le hts) (by decide)
  position_lt c j hj := by
    obtain ⟨hlt, -⟩ := List.idxOf?_eq_some_iff.1 hj
    exact hlt
  last_column ps cols hps hcols := by
    obtain ⟨f, -, -, -, rfl⟩ := exists_formula_of_columns hts hps hcols
    have hlast := getLast?_labels_table f
    refine ⟨?_, hlast⟩
    rw [Columns.size, Nat.one_le_iff_ne_zero, Ne, List.length_eq_zero_iff]
    intro hnil
    simp [hnil] at hlast
  rows ps cols hps hcols i := by
    obtain ⟨f, hf, rfl, hletters, rfl⟩ := exists_formula_of_columns hts hps hcols
    rw [hletters]
    exact ⟨_, rowValues_postorder hf f.label i, by simp [Columns.size, Formula.table]⟩

end

/-! ## The answer -/

/-- **The answer to any standard tokens** is the one that `Answer` tells, and nothing goes
out of bounds on the way to it. -/
theorem ofTokensWithin_eq_iff_answer {ts : List Token} (hts : ∀ t ∈ ts, t.IsStandard)
    (limit : Option ℕ) :
    (∀ r, ofTokensWithin limit ts = r ↔ Answer limit ts r) ∧ InBounds ts := by
  refine ⟨fun r => ⟨?_, Answer.ofTokensWithin_eq⟩, inBounds hts⟩
  rintro rfl
  obtain ⟨r, hr⟩ := exists_answer hts limit
  rwa [hr.ofTokensWithin_eq]

/-- The parenthesis of `(A` is open, but a limit that is exceeded goes first. -/
theorem ofTokensWithin_eq_iff_answer_open_parenthesis :
    let ts : List Token := [.leftParen, .letter 'A']
    (∀ t ∈ ts, t.IsStandard) ∧ Answer (some 0) ts (.error (.error (.tooManyLetters 1 0))) ∧
      Answer none ts (.error (.error .unbalancedParentheses)) := by
  intro ts
  have hts : ∀ t ∈ ts, t.IsStandard := by decide
  exact ⟨hts, ((ofTokensWithin_eq_iff_answer hts (some 0)).1 _).1 rfl,
    ((ofTokensWithin_eq_iff_answer hts none).1 _).1 rfl⟩

end Table

end TruthTable
