/-
# Reading a label back

A label is the written form of a formula with parentheses around every two operands.  Read
as a text it gives back the tokens of its formula, and these are well-formed
(`tokenize_label`, `isWellFormed_tokens`).  So every column label of a table has a table of
its own, and the label of the whole formula has the same table again.

This needs no validation.  A token sequence such as `AB&`, which is not a formula, may still
have a table; the table is that of the formula `A&B`, and only the formula can be found
again in the labels.

A label is also all that there is to a table: two sequences have the same table just if the
tables have the same label, and just if the sequences stand for the same formula
(`tfae_same_table`).  Formulas that are merely equivalent have different tables.
-/
import Mathlib.Data.List.Basic
import Mathlib.Data.List.TFAE
import Mathlib.Tactic.TFAE
import TruthTable.Proofs.Lexer
import TruthTable.Proofs.Table

namespace TruthTable

namespace Formula

lemma isStandard_of_mem_tokens {f : Formula} (hf : f.IsStandard) :
    ∀ t ∈ f.tokens, t.IsStandard :=
  (isStandard_iff f.filterMap_letter?_tokens).1 hf

/-- No label contains a blank. -/
lemma not_isBlank_of_mem_label {f : Formula} (hf : f.IsStandard) {c : Char}
    (hc : c ∈ f.label.toList) : Text.isBlank c = false := by
  rw [← surface_tokens, Token.toList_surface] at hc
  obtain ⟨t, ht, hc⟩ := List.mem_flatMap.1 hc
  exact Token.not_isBlank_of_mem_text (isStandard_of_mem_tokens hf t ht) hc

lemma tokenize_label {f : Formula} (hf : f.IsStandard) :
    Token.tokenize f.label = .ok f.tokens := by
  rw [← surface_tokens, Token.tokenize_surface (isStandard_of_mem_tokens hf)]

lemma isWellFormed_tokens (f : Formula) : Token.isWellFormed f.tokens = true :=
  f.reads_tokens.derivable.isWellFormed

/-- The tokens of a label have the table of the formula that is labelled. -/
lemma ofTokens_tokens {f : Formula} (hf : f.IsStandard) :
    Table.ofTokens f.tokens = .ok f.table :=
  Table.ofTokens_of_reads (isStandard_of_mem_tokens hf) (f.reads_tokens.loosen (Nat.zero_le _))

end Formula

namespace Table

open Formula

/-- **Printing a formula as its label and reading it back is the identity on tables**, and
every column label is the label of a table of its own. -/
theorem labels_read_back {ts : List Token} {t : Table} (hts : ∀ t ∈ ts, t.IsStandard)
    (h : ofTokens ts = .ok t) :
    (∀ l ∈ t.columns.labels, ∃ us u, Token.tokenize l = .ok us ∧
      Token.isWellFormed us = true ∧ ofTokens us = .ok u ∧ u.formula = l) ∧
    t.formula ∈ t.columns.labels ∧
    ∃ us, Token.tokenize t.formula = .ok us ∧ ofTokens us = .ok t := by
  obtain ⟨f, hf, -, rfl⟩ := exists_eq_table hts h
  refine ⟨?_, ?_, ?_⟩
  · intro l hl
    obtain ⟨u, hu, rfl⟩ := mem_labels_table.1 hl
    have hstandard : u.IsStandard := hf.of_mem_subformulas hu
    exact ⟨u.tokens, u.table, tokenize_label hstandard, u.isWellFormed_tokens,
      ofTokens_tokens hstandard, rfl⟩
  · exact mem_labels_table.2 ⟨f, f.mem_subformulas_self, rfl⟩
  · exact ⟨f.tokens, tokenize_label hf, ofTokens_tokens hf⟩

/-- The sequence `AB&` is not well-formed, but it has a table, that of the text `(A&B)`. -/
theorem labels_read_back_suffix_and :
    let ts : List Token := [.letter 'A', .letter 'B', .connective (.binary .and)]
    Token.isWellFormed ts = false ∧
      ∃ t us, ofTokens ts = .ok t ∧ Token.tokenize "(A&B)" = .ok us ∧ ofTokens us = .ok t := by
  intro ts
  have hts : ∀ t ∈ ts, t.IsStandard := by decide
  let f : Formula := .binary .and (.letter 'A') (.letter 'B')
  have hf : f.IsStandard := (isStandard_iff rfl).2 hts
  have h : ofTokens ts = .ok f.table := ofTokens_eq_table rfl hf.legible
  have hlabel : f.table.formula = "(A&B)" := by decide
  obtain ⟨-, -, us, hus, htable⟩ := labels_read_back hts h
  rw [hlabel] at hus
  exact ⟨by decide, f.table, us, h, hus, htable⟩

/-! ## Sequences with the same table -/

/-- **A table identifies its formula**, up to redundant grouping and no further.  Two tables are
the same just if they have the same label, just if their sequences are converted alike, and just
if these stand for one formula.  Well-formed sequences with the same table are those that are
read alike. -/
theorem tfae_same_table {ts us : List Token} {t u : Table} (hts : ∀ x ∈ ts, x.IsStandard)
    (hus : ∀ x ∈ us, x.IsStandard) (ht : ofTokens ts = .ok t) (hu : ofTokens us = .ok u) :
    [t = u, t.formula = u.formula, Postorder.ofTokens ts = Postorder.ofTokens us,
      ∃ f : Formula, Postorder.ofTokens ts = .ok f.postorder ∧
        Postorder.ofTokens us = .ok f.postorder].TFAE ∧
    (Token.isWellFormed ts = true → Token.isWellFormed us = true →
      (t = u ↔ ∀ h, Reads 0 ts h ↔ Reads 0 us h)) := by
  obtain ⟨f, hf, hps, rfl⟩ := exists_eq_table hts ht
  obtain ⟨g, hg, hps', rfl⟩ := exists_eq_table hus hu
  have hsame : f.table = g.table ↔ f = g :=
    ⟨fun h => label_injective hf.legible hg.legible (congrArg formula h), fun h => by rw [h]⟩
  constructor
  · tfae_have 1 → 2 := fun h => congrArg formula h
    tfae_have 2 → 4 := by
      intro h
      obtain rfl : f = g := label_injective hf.legible hg.legible h
      exact ⟨f, hps, hps'⟩
    tfae_have 4 → 3 := fun ⟨_, hf', hg'⟩ => hf'.trans hg'.symm
    tfae_have 3 → 1 := by
      intro h
      rw [hps, hps'] at h
      exact hsame.2 (postorder_injective (Except.ok.inj h))
    tfae_finish
  · intro hwts hwus
    simp only [hsame, Postorder.reads_iff_eq hwts hps, Postorder.reads_iff_eq hwus hps']
    constructor
    · rintro rfl
      exact fun _ => Iff.rfl
    · exact fun h => (h f).1 rfl

/-- The sequences `A&B` and `B&A` have the same values in all rows, but not the same table;
`A&B` and `(A)&B` have the same table. -/
theorem tfae_same_table_and :
    let ts : List Token := [.letter 'A', .connective (.binary .and), .letter 'B']
    let us : List Token := [.letter 'B', .connective (.binary .and), .letter 'A']
    let vs : List Token := [.leftParen, .letter 'A', .rightParen, .connective (.binary .and),
      .letter 'B']
    ∃ t u v, ofTokens ts = .ok t ∧ ofTokens us = .ok u ∧ ofTokens vs = .ok v ∧
      t.finalColumn = u.finalColumn ∧ t ≠ u ∧ t = v := by
  intro ts us vs
  let f : Formula := .binary .and (.letter 'A') (.letter 'B')
  let g : Formula := .binary .and (.letter 'B') (.letter 'A')
  have hts : ∀ x ∈ ts, x.IsStandard := by decide
  have hus : ∀ x ∈ us, x.IsStandard := by decide
  have hvs : ∀ x ∈ vs, x.IsStandard := by decide
  have hf : f.IsStandard := (isStandard_iff rfl).2 hts
  have hg : g.IsStandard := (isStandard_iff rfl).2 hus
  have ht : ofTokens ts = .ok f.table := ofTokens_eq_table rfl hf.legible
  have hu : ofTokens us = .ok g.table := ofTokens_eq_table rfl hg.legible
  have hv : ofTokens vs = .ok f.table := ofTokens_eq_table rfl hf.legible
  refine ⟨f.table, g.table, f.table, ht, hu, hv, by decide, ?_, ?_⟩
  · intro h
    have hps := ((tfae_same_table hts hus ht hu).1.out 0 2).1 h
    exact absurd hps (by decide)
  · exact ((tfae_same_table hts hvs ht hv).1.out 0 2).2 (by decide)

end Table

end TruthTable
