/-
# What is written about a formula

A text is reported on in stages: it is read, checked, counted, converted and folded, and the
table is printed.  Only the first three stages can end in an error line.  What the check
accepts has a letter, is converted, and folds to a formula (`Token.accepted_is_formula`), so
the later errors never come up.  `Report.Explains` says when which line is written, and
`report_explains` that every report is of this kind.

Not every report gets to its end.  A cell cannot be padded to more than `Table.maxWidth`
characters.  A formula whose label is longer than that allows is read, checked and tabulated,
but its report is broken off before the table.  The label doubles with every level of the
formula, so one letter and fourteen levels are enough (`report_implies_doubled`).
-/
import Mathlib
import TruthTable.Console.Report
import TruthTable.Proofs.Answer
import TruthTable.Proofs.Layout
import TruthTable.Proofs.RoundTrip

namespace TruthTable

open Token (letterCount)
open Table (Allows maxWidth)

/-! ## Messages -/

lemma isDigit_of_mem_toString {n : ℕ} {c : Char} (hc : c ∈ (toString n).toList) :
    c.isDigit = true := by
  rw [Nat.toString_eq_repr, Nat.repr_eq_ofList_toDigits, String.toList_ofList] at hc
  exact Nat.isDigit_of_mem_toDigits (by decide) (by decide) hc

namespace FormulaError

/-- A number at the beginning of a text is found again, if no digit follows. -/
lemma toString_append_inj {m n : ℕ} {d : Char} (hd : d.isDigit = false) {xs ys : List Char}
    (h : (toString m).toList ++ d :: xs = (toString n).toList ++ d :: ys) : m = n ∧ xs = ys := by
  have hdigits : ∀ (k : ℕ) (zs : List Char),
      ((toString k).toList ++ d :: zs).takeWhile Char.isDigit = (toString k).toList := by
    intro k zs
    rw [List.takeWhile_append_of_pos fun c => isDigit_of_mem_toString,
      List.takeWhile_cons_of_neg (by simp [hd]), List.append_nil]
  have hsame : (toString m).toList = (toString n).toList := by rw [← hdigits m xs, h, hdigits]
  obtain rfl : m = n := Nat.repr_inj.1 (String.toList_inj.1 hsame)
  exact ⟨rfl, (List.cons.inj (List.append_cancel_left h)).2⟩

/-- The first letter of the message. -/
def initial : FormulaError → Char
  | invalidSymbol _ => 'i'
  | unbalancedParentheses => 'u'
  | noLetters => 'n'
  | malformed => 'm'
  | tooManyLetters _ _ => 't'

lemma toList_message_invalidSymbol (c : Char) :
    (invalidSymbol c).message.toList = "invalid symbol: '".toList ++ [c, '\''] := by
  show ("invalid symbol: '" ++ c.toString ++ "'").toList = _
  simp

lemma toList_message_tooManyLetters (found limit : ℕ) :
    (tooManyLetters found limit).message.toList = "too many propositions: ".toList ++
      ((toString found).toList ++ ' ' :: ("(limit is ".toList ++
        ((toString limit).toList ++ [')']))) := by
  show ("too many propositions: " ++ toString found ++ " (limit is " ++ toString limit ++
    ")").toList = _
  simp

lemma head?_message (e : FormulaError) : e.message.toList.head? = some e.initial := by
  match e with
  | invalidSymbol c => simp [toList_message_invalidSymbol, initial]
  | tooManyLetters found limit => simp [toList_message_tooManyLetters, initial]
  | unbalancedParentheses | noLetters | malformed => rfl

/-- Different errors have different messages. -/
lemma message_injective {e e' : FormulaError} (h : e.message = e'.message) : e = e' := by
  have hinitial : e.initial = e'.initial :=
    Option.some.inj (by rw [← head?_message, ← head?_message, h])
  have htext : e.message.toList = e'.message.toList := by rw [h]
  cases e with
  | invalidSymbol c =>
    cases e' with
    | invalidSymbol d =>
      rw [toList_message_invalidSymbol, toList_message_invalidSymbol] at htext
      obtain rfl : c = d := by simpa using htext
      rfl
    | _ => simp [initial] at hinitial
  | tooManyLetters found limit =>
    cases e' with
    | tooManyLetters found' limit' =>
      rw [toList_message_tooManyLetters, toList_message_tooManyLetters] at htext
      obtain ⟨rfl, hlimit⟩ := toString_append_inj (by decide) (List.append_cancel_left htext)
      obtain ⟨rfl, -⟩ := toString_append_inj (by decide) (List.append_cancel_left hlimit)
      rfl
    | _ => simp [initial] at hinitial
  | unbalancedParentheses | noLetters | malformed => cases e' <;> simp [initial] at hinitial ⊢

end FormulaError

/-! ## Accepted sequences -/

/-- **What the check accepts is a formula.**  It has a letter, its parentheses match, and what
it is converted to folds to one formula. -/
lemma Token.accepted_is_formula {ts : List Token} (h : Token.isWellFormed ts = true) :
    (∃ c, .letter c ∈ ts) ∧ ∃ f : Formula, Postorder.ofTokens ts = .ok f.postorder := by
  obtain ⟨f, hf⟩ := Formula.exists_reads_of_derivable (derivable_of_isWellFormed h)
  have hps : Postorder.ofTokens ts = .ok f.postorder := Postorder.ofTokens_of_reads hf
  obtain ⟨c, hc⟩ := List.exists_mem_of_ne_nil _ f.letters_ne_nil
  rw [← Table.filterMap_letter?_eq_letters hps, mem_filterMap_letter?] at hc
  exact ⟨⟨c, hc⟩, f, hps⟩

/-- An accepted text has the table of a formula. -/
lemma Table.exists_table_of_tokenize {s : String} {ts : List Token}
    (hs : Token.tokenize s = .ok ts) (hts : Token.isWellFormed ts = true) :
    ∃ f : Formula, Table.ofTokens ts = .ok f.table := by
  obtain ⟨f, hf⟩ := Formula.exists_reads_of_derivable (Token.derivable_of_isWellFormed hts)
  exact ⟨f, ofTokens_of_reads (Token.isStandard_of_tokenize hs) hf⟩

namespace Console

/-! ## The stages of a report -/

section

variable {limit : Option ℕ} {s : String} {ts : List Token}

lemma report_of_error {e : FormulaError} (hs : Token.tokenize s = .error e) :
    report limit s = { text := errorLine e.message } := by
  rw [report, hs]

lemma report_of_rejected (hs : Token.tokenize s = .ok ts) (hts : Token.isWellFormed ts = false) :
    report limit s = { text := notWellFormed } := by
  rw [report, hs]
  exact if_neg (by simp [hts])

lemma report_of_accepted (hs : Token.tokenize s = .ok ts) (hts : Token.isWellFormed ts = true) :
    report limit s =
      match Table.ofTokensWithin limit ts with
      | .error (.error e) => { text := errorLine e.message }
      | .error (.fault fault) => { text := "", fault }
      | .ok table =>
        match table.render with
        | .ok text => { text := "\n" ++ text }
        | .error fault => { text := "\n", fault } := by
  rw [report, hs]
  exact if_pos hts

lemma report_of_tooManyLetters {allowed : ℕ} (hs : Token.tokenize s = .ok ts)
    (hts : Token.isWellFormed ts = true) (hlimit : limit = some allowed)
    (hlt : allowed < letterCount ts) :
    report limit s =
      { text := errorLine (FormulaError.tooManyLetters (letterCount ts) allowed).message } := by
  rw [report_of_accepted hs hts, (Table.Answer.tooManyLetters hlimit hlt).ofTokensWithin_eq]

lemma report_of_table {t : Table} (hs : Token.tokenize s = .ok ts)
    (hts : Token.isWellFormed ts = true) (hallows : Allows limit ts)
    (ht : Table.ofTokens ts = .ok t) :
    report limit s =
      match t.render with
      | .ok text => { text := "\n" ++ text }
      | .error fault => { text := "\n", fault } := by
  rw [report_of_accepted hs hts, Table.ofTokensWithin_of_allows hallows, ht]

/-- The stages at which the work on a text can end. -/
inductive Stage (limit : Option ℕ) (s : String) : Prop
  | invalidSymbol {c : Char} : Token.tokenize s = .error (.invalidSymbol c) → Stage limit s
  | notWellFormed {ts : List Token} : Token.tokenize s = .ok ts →
      Token.isWellFormed ts = false → Stage limit s
  | tooManyLetters {ts : List Token} {allowed : ℕ} : Token.tokenize s = .ok ts →
      Token.isWellFormed ts = true → limit = some allowed → allowed < letterCount ts →
      Stage limit s
  | table {ts : List Token} {f : Formula} : Token.tokenize s = .ok ts →
      Token.isWellFormed ts = true → Allows limit ts → Table.ofTokens ts = .ok f.table →
      Stage limit s

/-- The work on any text ends at one of the stages. -/
lemma exists_stage (limit : Option ℕ) (s : String) : Stage limit s := by
  cases hs : Token.tokenize s with
  | error e =>
    obtain ⟨c, rfl⟩ := Token.exists_of_tokenize_eq_error hs
    exact .invalidSymbol hs
  | ok ts =>
    cases hts : Token.isWellFormed ts with
    | false => exact .notWellFormed hs hts
    | true =>
      rcases Table.allows_or_exceeded limit ts with hallows | ⟨allowed, hlimit, hlt⟩
      · obtain ⟨f, hf⟩ := Table.exists_table_of_tokenize hs hts
        exact .table hs hts hallows hf
      · exact .tooManyLetters hs hts hlimit hlt

/-! ## Which text is written -/

lemma errorLine_injective {reason reason' : String} (h : errorLine reason = errorLine reason') :
    reason = reason' := by
  rw [errorLine, errorLine, String.append_left_inj, String.append_right_inj] at h
  exact h

lemma errorLine_message_ne_notWellFormed (e : FormulaError) :
    errorLine e.message ≠ notWellFormed := by
  intro h
  have hhead := e.head?_message
  rw [errorLine_injective h] at hhead
  have hf : e.initial = 'f' := by simpa using hhead.symm
  cases e <;> simp [FormulaError.initial] at hf

/-- With a table there is no error line. -/
lemma text_report_ne_errorLine {t : Table} (hs : Token.tokenize s = .ok ts)
    (hts : Token.isWellFormed ts = true) (hallows : Allows limit ts)
    (ht : Table.ofTokens ts = .ok t) (reason : String) :
    (report limit s).text ≠ errorLine reason := by
  have hnewline : (report limit s).text.toList.head? = some '\n' := by
    rw [report_of_table hs hts hallows ht]
    cases t.render <;> simp
  intro h
  rw [h, errorLine] at hnewline
  simp at hnewline

/-- Only two kinds of errors are ever written. -/
lemma error_of_text_report_eq {e : FormulaError} (h : (report limit s).text = errorLine e.message) :
    Token.tokenize s = .error e ∨ ∃ ts allowed, Token.tokenize s = .ok ts ∧
      Token.isWellFormed ts = true ∧ limit = some allowed ∧ allowed < letterCount ts ∧
        e = .tooManyLetters (letterCount ts) allowed := by
  cases exists_stage limit s with
  | invalidSymbol hs =>
    rw [report_of_error hs] at h
    rw [FormulaError.message_injective (errorLine_injective h)] at hs
    exact .inl hs
  | notWellFormed hs hts =>
    rw [report_of_rejected hs hts] at h
    exact absurd h.symm (errorLine_message_ne_notWellFormed e)
  | tooManyLetters hs hts hlimit hlt =>
    rw [report_of_tooManyLetters hs hts hlimit hlt] at h
    exact .inr ⟨_, _, hs, hts, hlimit, hlt,
      (FormulaError.message_injective (errorLine_injective h)).symm⟩
  | table hs hts hallows ht => exact absurd h (text_report_ne_errorLine hs hts hallows ht _)

end

/-- What a report says about the text `s`, of which at most `limit` different letters are
allowed, and when it is complete. -/
structure Report.Explains (r : Report) (limit : Option ℕ) (s : String) : Prop where
  invalidSymbol : ∀ c, r = { text := errorLine (FormulaError.invalidSymbol c).message } ↔
    Token.tokenize s = .error (.invalidSymbol c)
  /-- Reading fails in no other way. -/
  readable : (∃ ts, Token.tokenize s = .ok ts) ↔
    ∀ c, r ≠ { text := errorLine (FormulaError.invalidSymbol c).message }
  notWellFormed : r = { text := notWellFormed } ↔
    ∃ ts, Token.tokenize s = .ok ts ∧ Token.isWellFormed ts = false
  tooManyLetters : ∀ found allowed,
    r = { text := errorLine (FormulaError.tooManyLetters found allowed).message } ↔
      ∃ ts, Token.tokenize s = .ok ts ∧ Token.isWellFormed ts = true ∧ limit = some allowed ∧
        letterCount ts = found ∧ allowed < found
  /-- Otherwise there is a table.  It is printed after an empty line, unless its formula does
  not fit into a column. -/
  table : ∀ ts, Token.tokenize s = .ok ts → Token.isWellFormed ts = true → Allows limit ts →
    ∃ t, Table.ofTokens ts = .ok t ∧
      (t.formula.length + 2 ≤ maxWidth →
        ∃ text, t.render = .ok text ∧ r = { text := "\n" ++ text }) ∧
      (maxWidth < t.formula.length + 2 → r = { text := "\n", fault := some .tooWide })
  /-- No other report is broken off. -/
  complete : r.fault = none ↔ ∀ ts t, Token.tokenize s = .ok ts → Token.isWellFormed ts = true →
    Allows limit ts → Table.ofTokens ts = .ok t → t.formula.length + 2 ≤ maxWidth
  /-- There is no line about any other error. -/
  no_other_error : ∀ e : FormulaError, r.text = errorLine e.message →
    (∃ c, e = .invalidSymbol c) ∨ ∃ found allowed, e = .tooManyLetters found allowed

section

variable {limit : Option ℕ} {s : String}

lemma report_eq_error_iff {e : FormulaError} :
    report limit s = { text := errorLine e.message } ↔
      Token.tokenize s = .error e ∨ ∃ ts allowed, Token.tokenize s = .ok ts ∧
        Token.isWellFormed ts = true ∧ limit = some allowed ∧ allowed < letterCount ts ∧
          e = .tooManyLetters (letterCount ts) allowed := by
  constructor
  · intro h
    exact error_of_text_report_eq (by rw [h])
  · rintro (hs | ⟨ts, allowed, hs, hts, hlimit, hlt, rfl⟩)
    · exact report_of_error hs
    · exact report_of_tooManyLetters hs hts hlimit hlt

lemma report_eq_invalidSymbol_iff {c : Char} :
    report limit s = { text := errorLine (FormulaError.invalidSymbol c).message } ↔
      Token.tokenize s = .error (.invalidSymbol c) := by
  rw [report_eq_error_iff, or_iff_left]
  rintro ⟨ts, allowed, -, -, -, -, h⟩
  cases h

lemma report_eq_notWellFormed_iff :
    report limit s = { text := notWellFormed } ↔
      ∃ ts, Token.tokenize s = .ok ts ∧ Token.isWellFormed ts = false := by
  constructor
  · intro h
    have htext : (report limit s).text = notWellFormed := by rw [h]
    cases exists_stage limit s with
    | invalidSymbol hs =>
      rw [report_of_error hs] at htext
      exact absurd htext (errorLine_message_ne_notWellFormed _)
    | notWellFormed hs hts => exact ⟨_, hs, hts⟩
    | tooManyLetters hs hts hlimit hlt =>
      rw [report_of_tooManyLetters hs hts hlimit hlt] at htext
      exact absurd htext (errorLine_message_ne_notWellFormed _)
    | table hs hts hallows ht =>
      exact absurd htext (text_report_ne_errorLine hs hts hallows ht _)
  · rintro ⟨ts, hs, hts⟩
    exact report_of_rejected hs hts

lemma report_eq_tooManyLetters_iff {found allowed : ℕ} :
    report limit s =
        { text := errorLine (FormulaError.tooManyLetters found allowed).message } ↔
      ∃ ts, Token.tokenize s = .ok ts ∧ Token.isWellFormed ts = true ∧ limit = some allowed ∧
        letterCount ts = found ∧ allowed < found := by
  rw [report_eq_error_iff]
  constructor
  · rintro (hs | ⟨ts, allowed', hs, hts, hlimit, hlt, h⟩)
    · obtain ⟨c, hc⟩ := Token.exists_of_tokenize_eq_error hs
      cases hc
    · obtain ⟨rfl, rfl⟩ := FormulaError.tooManyLetters.inj h
      exact ⟨ts, hs, hts, hlimit, rfl, hlt⟩
  · rintro ⟨ts, hs, hts, hlimit, rfl, hlt⟩
    exact .inr ⟨ts, allowed, hs, hts, hlimit, hlt, rfl⟩

lemma fault_report_eq_none_iff :
    (report limit s).fault = none ↔
      ∀ ts t, Token.tokenize s = .ok ts → Token.isWellFormed ts = true → Allows limit ts →
        Table.ofTokens ts = .ok t → t.formula.length + 2 ≤ maxWidth := by
  constructor
  · intro hnone ts t hs hts hallows ht
    obtain ⟨f, hf⟩ := Table.exists_table_of_tokenize hs hts
    obtain rfl : f.table = t := Except.ok.inj (hf.symm.trans ht)
    by_contra hwide
    rw [report_of_table hs hts hallows hf, Table.render_table_of_lt (Nat.not_le.1 hwide)] at hnone
    cases hnone
  · intro h
    cases exists_stage limit s with
    | invalidSymbol hs => rw [report_of_error hs]
    | notWellFormed hs hts => rw [report_of_rejected hs hts]
    | tooManyLetters hs hts hlimit hlt => rw [report_of_tooManyLetters hs hts hlimit hlt]
    | table hs hts hallows ht =>
      have hfits := h _ _ hs hts hallows ht
      rw [report_of_table hs hts hallows ht, Table.render_table_of_le hfits]

end

/-- **Every report is explained**, and no error that the check should have caught comes up
after it: what is accepted has a letter, is converted and folds to one formula. -/
theorem report_explains (limit : Option ℕ) (s : String) :
    (report limit s).Explains limit s ∧
      ∀ ts, Token.isWellFormed ts = true →
        (∃ c, .letter c ∈ ts) ∧ ∃ f : Formula, Postorder.ofTokens ts = .ok f.postorder where
  left :=
    { invalidSymbol := fun _ => report_eq_invalidSymbol_iff
      readable := by
        constructor
        · rintro ⟨ts, hs⟩ c hc
          rw [report_eq_invalidSymbol_iff, hs] at hc
          cases hc
        · intro hno
          cases hs : Token.tokenize s with
          | ok ts => exact ⟨ts, rfl⟩
          | error e =>
            obtain ⟨c, rfl⟩ := Token.exists_of_tokenize_eq_error hs
            exact absurd (report_of_error hs) (hno c)
      notWellFormed := report_eq_notWellFormed_iff
      tooManyLetters := fun _ _ => report_eq_tooManyLetters_iff
      table := by
        intro ts hs hts hallows
        obtain ⟨f, hf⟩ := Table.exists_table_of_tokenize hs hts
        refine ⟨f.table, hf, fun hfits => ?_, fun hwide => ?_⟩
        · refine ⟨f.table.layout, Table.render_table_of_le hfits, ?_⟩
          rw [report_of_table hs hts hallows hf, Table.render_table_of_le hfits]
        · rw [report_of_table hs hts hallows hf, Table.render_table_of_lt hwide]
      complete := fault_report_eq_none_iff
      no_other_error := by
        intro e h
        rcases error_of_text_report_eq h with hs | ⟨ts, allowed, -, -, -, -, he⟩
        · exact .inl (Token.exists_of_tokenize_eq_error hs)
        · exact .inr ⟨_, _, he⟩ }
  right _ hts := Token.accepted_is_formula hts

/-! ## A formula that does not fit -/

/-- The letter `A`, joined to itself again and again. -/
def doubled : ℕ → Formula
  | 0 => .letter 'A'
  | n + 1 => .binary .and (doubled n) (doubled n)

lemma letters_doubled {n : ℕ} : ∀ c ∈ (doubled n).letters, c = 'A' := by
  induction n with
  | zero => simp [doubled, Formula.letters]
  | succ n ih => simpa [doubled, Formula.letters] using ih

/-- Each time the label becomes twice as long. -/
lemma length_label_doubled (n : ℕ) : (doubled n).label.length + 3 = 4 * 2 ^ n := by
  induction n with
  | zero => simp [doubled]
  | succ n ih =>
    have hsymbol : BinaryConnective.and.symbol.length = 1 := by decide
    rw [doubled, Formula.length_label_binary, hsymbol, Nat.pow_succ]
    omega

lemma isStandard_implies_doubled (n : ℕ) :
    (Formula.binary .implies (doubled n) (doubled n)).IsStandard := by
  intro c hc
  obtain rfl : c = 'A' := (List.mem_append.1 hc).elim (letters_doubled c) (letters_doubled c)
  decide

/-- A formula of one letter, with a label of 65534 characters, is not reported on. -/
theorem report_implies_doubled :
    report none (Formula.binary .implies (doubled 13) (doubled 13)).label =
      { text := "\n", fault := some .tooWide } := by
  have hstandard := isStandard_implies_doubled 13
  have hlong : maxWidth <
      (Formula.binary .implies (doubled 13) (doubled 13)).table.formula.length + 2 := by
    have hpart := length_label_doubled 13
    have hsymbol : BinaryConnective.implies.symbol.length = 2 := by decide
    have hmax : maxWidth = 65535 := rfl
    rw [Table.formula_table, Formula.length_label_binary, hsymbol]
    omega
  rw [report_of_table (Formula.tokenize_label hstandard) (Formula.isWellFormed_tokens _)
    (Table.allows_none _) (Formula.ofTokens_tokens hstandard), Table.render_table_of_lt hlong]

end Console

end TruthTable
