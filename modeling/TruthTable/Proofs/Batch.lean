/-
# Formulas as arguments and formulas as lines

The program reports on the formulas of its options, or it asks for formulas and reports on
the lines that it is given.  Both ways lead to the same blocks: what is written about a formula
does not depend on whether it stands alone or on a line that ends in a newline
(`turn_append_newline`).  In the dialogue a question goes before each block, and a last question
and the farewell come after them.

This is so for the formulas for which a dialogue does nothing else: they have no newline inside,
they are not blank, and they are no exit words (`IsRequest`).  It does not matter whether they
are well-formed, or whether they have too many letters.

The journal would make a difference, since it quotes the line with its end.  With a threshold of
`warn` or above there is none (`shown_of_quiet`), so it does not matter how its entries look.

A report that is broken off ends the program in both ways, after the same blocks and with the
same status (`SameBlocks.brokenOff`).
-/
import TruthTable.Console.Program
import TruthTable.Proofs.Dialogue

namespace TruthTable

/-- With such a threshold nothing is noted in the journal. -/
lemma Journal.keep_eq_nil {threshold : Threshold} (h : threshold ∈ [.off, .error, .warn])
    (entries : List Entry) : keep threshold entries = [] := by
  rw [keep, List.filter_eq_nil_iff]
  intro e _
  have hcases : threshold = .off ∨ threshold = .error ∨ threshold = .warn := by simpa using h
  rcases hcases with rfl | rfl | rfl <;> simp [Threshold.admits]

namespace Console

/-! ## One formula -/

/-- A text that a dialogue answers by a report, if it is a line: it is a single line, it is not
blank, and it is no exit word. -/
structure IsRequest (exitWord text : String) : Prop where
  newline_notMem : '\n' ∉ text.toList
  isBlankLine_eq_false : isBlankLine text = false
  isExit_eq_false : isExit exitWord text = false

/-- What is written about a formula, and the line that closes it. -/
def blockText (limit : Option ℕ) (formula : String) : String :=
  (report limit formula).text ++ separator

section

variable {opts : Options} {formula : String}

lemma IsRequest.isBlankLine_append_newline (h : IsRequest opts.exitWord formula) :
    isBlankLine (formula ++ "\n") = false :=
  (isBlankLine_append_blank formula (c := '\n') (by decide)).trans h.isBlankLine_eq_false

/-- The turn of a formula is the question and its block. -/
lemma turn_append_newline (h : IsRequest opts.exitWord formula) :
    turn opts (formula ++ "\n") = prompt opts.exitWord ++ blockText opts.maxLetters formula := by
  have hreport : report opts.maxLetters (formula ++ "\n") = report opts.maxLetters formula :=
    report_append_blank opts.maxLetters formula (c := '\n') (by decide)
  rw [turn, h.isBlankLine_append_newline, hreport, blockText]
  rfl

lemma IsRequest.not_isExitLine (h : IsRequest opts.exitWord formula) :
    ¬IsExitLine opts.exitWord (encode (formula ++ "\n")) := by
  rintro ⟨text, htext, -, hexit⟩
  rw [decode?_eq_some_iff.2 rfl] at htext
  have hsame : isExit opts.exitWord (formula ++ "\n") = isExit opts.exitWord formula :=
    isExit_append_blank opts.exitWord formula (c := '\n') (by decide)
  rw [← Option.some.inj htext, hsame, h.isExit_eq_false] at hexit
  cases hexit

end

/-! ## Several formulas -/

lemma reports_cons (answer : String → Report) (f : String) (rest : List String) :
    reports answer (f :: rest) = (answer f).append (reports answer rest) := rfl

/-- The blocks of some formulas, and then what is written about the rest. -/
lemma reports_append_of_fits {limit : Option ℕ} {formulas : List String}
    (h : ∀ f ∈ formulas, Fits limit f) (rest : List String) :
    reports (block limit) (formulas ++ rest) =
      { text := String.join (formulas.map (blockText limit)) ++ (reports (block limit) rest).text
        fault := (reports (block limit) rest).fault } := by
  induction formulas with
  | nil => simp
  | cons f formulas ih =>
    rw [List.forall_mem_cons] at h
    rw [List.cons_append, reports_cons, ih h.2, block_of_fits h.1]
    simp [Report.append, blockText, String.append_assoc]

/-- Nothing comes after a report that is broken off. -/
lemma reports_cons_of_not_fits {limit : Option ℕ} {f : String} (h : ¬Fits limit f)
    (rest : List String) :
    reports (block limit) (f :: rest) = { text := "\n", fault := some .tooWide } := by
  rw [reports_cons, block_of_not_fits h]
  rfl

/-- The input that has these texts as its lines. -/
def typed (texts : List String) : List UInt8 := encode (String.join (texts.map (· ++ "\n")))

lemma lines_typed {texts : List String} (h : ∀ text ∈ texts, '\n' ∉ text.toList) :
    lines (typed texts) = texts.map fun text => encode (text ++ "\n") := by
  induction texts with
  | nil => rfl
  | cons text texts ih =>
    rw [List.forall_mem_cons] at h
    have hcons : typed (text :: texts) = encode (text ++ "\n") ++ typed texts := by
      rw [typed, List.map_cons, String.join_cons, encode_append]
      rfl
    rw [hcons, lines_encode_append h.1, ih h.2, List.map_cons]

/-- What a dialogue writes about these formulas: before each block the question. -/
def questionsAndBlocks (opts : Options) (formulas : List String) : String :=
  String.join (formulas.map fun f => prompt opts.exitWord ++ blockText opts.maxLetters f)

/-- The questions and the blocks of some formulas, and then the dialogue about the rest. -/
lemma converse_typed_append {opts : Options} {formulas : List String}
    (hformulas : ∀ f ∈ formulas, IsRequest opts.exitWord f)
    (hfits : ∀ f ∈ formulas, Fits opts.maxLetters f) (rest : List (List UInt8)) :
    converse opts.host ((formulas.map fun f => encode (f ++ "\n")) ++ rest) =
      ⟨questionsAndBlocks opts formulas ++ (converse opts.host rest).output,
        (converse opts.host rest).ending⟩ := by
  have htexts : (formulas.map fun f => encode (f ++ "\n")).map decode? =
      (formulas.map (· ++ "\n")).map some := by
    rw [List.map_map, List.map_map]
    exact List.map_congr_left fun f _ => decode?_eq_some_iff.2 rfl
  have hexit : ∀ line ∈ formulas.map fun f => encode (f ++ "\n"),
      ¬IsExitLine opts.exitWord line := by
    intro line hline
    obtain ⟨f, hf, rfl⟩ := List.mem_map.1 hline
    exact (hformulas f hf).not_isExitLine
  have hlines : ∀ text ∈ formulas.map (· ++ "\n"), isBlankLine text = false →
      Fits opts.maxLetters text := by
    intro text htext _
    obtain ⟨f, hf, rfl⟩ := List.mem_map.1 htext
    exact fits_append_newline.2 (hfits f hf)
  have hturns : turns opts (formulas.map (· ++ "\n")) = questionsAndBlocks opts formulas := by
    rw [turns, List.map_map]
    exact congrArg String.join (List.map_congr_left fun f hf =>
      turn_append_newline (hformulas f hf))
  rw [converse_append_of_fits htexts hexit hlines, hturns]

section

variable {opts : Options} {formulas before after : List String} {f : String}

lemma dialogue_typed_of_fits (hformulas : ∀ f ∈ formulas, IsRequest opts.exitWord f)
    (hfits : ∀ f ∈ formulas, Fits opts.maxLetters f) :
    dialogue opts (typed formulas) =
      ⟨questionsAndBlocks opts formulas ++ prompt opts.exitWord, .finished⟩ := by
  rw [dialogue, lines_typed fun f hf => (hformulas f hf).newline_notMem,
    ← List.append_nil (formulas.map _), converse_typed_append hformulas hfits]
  rfl

/-- The first report that is broken off ends the dialogue. -/
lemma dialogue_typed_of_not_fits
    (hformulas : ∀ g ∈ before ++ f :: after, IsRequest opts.exitWord g)
    (hbefore : ∀ g ∈ before, Fits opts.maxLetters g) (hf : ¬Fits opts.maxLetters f) :
    dialogue opts (typed (before ++ f :: after)) =
      ⟨questionsAndBlocks opts before ++ (prompt opts.exitWord ++ "\n"), .brokenOff .tooWide⟩ := by
  have hrequest : IsRequest opts.exitWord f := hformulas f (by simp)
  rw [dialogue, lines_typed fun g hg => (hformulas g hg).newline_notMem, List.map_append,
    List.map_cons,
    converse_typed_append (fun g hg => hformulas g (List.mem_append_left _ hg)) hbefore,
    converse_cons_of_not_fits (decode?_eq_some_iff.2 rfl) hrequest.isBlankLine_append_newline
      hrequest.not_isExitLine (mt fits_append_newline.1 hf)]

end

/-! ## A run without a journal -/

section

variable (record : Journal.Entry → String) {opts : Options}
  (hquiet : opts.threshold ∈ [.off, .error, .warn])

include hquiet

/-- What appears about a formula is its block and nothing else. -/
lemma shown_of_quiet : shown record opts = block opts.maxLetters := by
  funext formula
  have hnotes : notes record opts formula = "" := by
    rw [notes, Journal.keep_eq_nil hquiet]
    rfl
  rw [shown, hnotes]
  show Report.append _ _ = _
  simp [Report.append]

lemma journalHost_of_quiet : opts.journalHost record = opts.host := by
  rw [Options.journalHost, shown_of_quiet record hquiet]
  rfl

lemma runWith_formulas (hne : opts.formulas ≠ []) (input : List UInt8) :
    runWith record opts input =
      ⟨opening opts ++ (reports (block opts.maxLetters) opts.formulas).text,
        (reports (block opts.maxLetters) opts.formulas).ending.status⟩ := by
  rw [runWith, if_neg (by simpa using hne), shown_of_quiet record hquiet]

lemma runWith_dialogue (input : List UInt8) :
    runWith record { opts with formulas := [] } input =
      ⟨opening opts ++ (dialogue opts input).output ++ (dialogue opts input).ending.lastWords,
        (dialogue opts input).ending.status⟩ := by
  have hhost : ({ opts with formulas := [] } : Options).journalHost record = opts.host :=
    journalHost_of_quiet record hquiet
  simp only [runWith, List.isEmpty_nil, if_true, hhost]
  rfl

end

/-! ## The two runs -/

/-- The formulas of the options are reported on in the same way by a run that has them in its
options and by a run that has them on the lines of its input. -/
structure SameBlocks (opts : Options) (batch dialogue : Outcome) : Prop where
  complete : (∀ f ∈ opts.formulas, Fits opts.maxLetters f) →
    batch = ⟨opening opts ++ String.join (opts.formulas.map (blockText opts.maxLetters)), 0⟩ ∧
    dialogue = ⟨opening opts ++ (questionsAndBlocks opts opts.formulas ++ prompt opts.exitWord) ++
      farewell, 0⟩
  /-- The first report that is broken off ends both runs. -/
  brokenOff : ∀ before f after, opts.formulas = before ++ f :: after →
    (∀ g ∈ before, Fits opts.maxLetters g) → ¬Fits opts.maxLetters f →
    batch = ⟨opening opts ++ (String.join (before.map (blockText opts.maxLetters)) ++ "\n"),
      brokenOffStatus⟩ ∧
    dialogue = ⟨opening opts ++ (questionsAndBlocks opts before ++
      (prompt opts.exitWord ++ "\n")), brokenOffStatus⟩

section

variable (record : Journal.Entry → String) {opts : Options} {before after : List String}
  {f : String} (hquiet : opts.threshold ∈ [.off, .error, .warn])

include hquiet

lemma runWith_formulas_of_fits (hne : opts.formulas ≠ [])
    (hfits : ∀ f ∈ opts.formulas, Fits opts.maxLetters f) (input : List UInt8) :
    runWith record opts input =
      ⟨opening opts ++ String.join (opts.formulas.map (blockText opts.maxLetters)), 0⟩ := by
  have hreports := reports_append_of_fits hfits []
  rw [List.append_nil] at hreports
  rw [runWith_formulas record hquiet hne, hreports]
  simp [reports, Report.ending, Ending.status]

lemma runWith_typed_of_fits (hformulas : ∀ f ∈ opts.formulas, IsRequest opts.exitWord f)
    (hfits : ∀ f ∈ opts.formulas, Fits opts.maxLetters f) :
    runWith record { opts with formulas := [] } (typed opts.formulas) =
      ⟨opening opts ++ (questionsAndBlocks opts opts.formulas ++ prompt opts.exitWord) ++
        farewell, 0⟩ := by
  rw [runWith_dialogue record hquiet, dialogue_typed_of_fits hformulas hfits]
  rfl

lemma runWith_formulas_of_not_fits (hsplit : opts.formulas = before ++ f :: after)
    (hbefore : ∀ g ∈ before, Fits opts.maxLetters g) (hf : ¬Fits opts.maxLetters f)
    (input : List UInt8) :
    runWith record opts input =
      ⟨opening opts ++ (String.join (before.map (blockText opts.maxLetters)) ++ "\n"),
        brokenOffStatus⟩ := by
  have hne : opts.formulas ≠ [] := by simp [hsplit]
  rw [runWith_formulas record hquiet hne, hsplit, reports_append_of_fits hbefore,
    reports_cons_of_not_fits hf]
  rfl

lemma runWith_typed_of_not_fits (hformulas : ∀ g ∈ opts.formulas, IsRequest opts.exitWord g)
    (hsplit : opts.formulas = before ++ f :: after)
    (hbefore : ∀ g ∈ before, Fits opts.maxLetters g) (hf : ¬Fits opts.maxLetters f) :
    runWith record { opts with formulas := [] } (typed opts.formulas) =
      ⟨opening opts ++ (questionsAndBlocks opts before ++ (prompt opts.exitWord ++ "\n")),
        brokenOffStatus⟩ := by
  rw [hsplit] at hformulas
  rw [runWith_dialogue record hquiet, hsplit, dialogue_typed_of_not_fits hformulas hbefore hf]
  simp [Ending.lastWords, Ending.status]

end

/-- **Formulas in the options and formulas as lines lead to the same blocks**, if the options
are the same otherwise and nothing appears of the journal. -/
theorem runWith_sameBlocks (record : Journal.Entry → String) {opts : Options}
    (hquiet : opts.threshold ∈ [.off, .error, .warn]) (hne : opts.formulas ≠ [])
    (hformulas : ∀ f ∈ opts.formulas, IsRequest opts.exitWord f) (input : List UInt8) :
    SameBlocks opts (runWith record opts input)
      (runWith record { opts with formulas := [] } (typed opts.formulas)) where
  complete hfits :=
    ⟨runWith_formulas_of_fits record hquiet hne hfits input,
      runWith_typed_of_fits record hquiet hformulas hfits⟩
  brokenOff _ _ _ hsplit hbefore hf :=
    ⟨runWith_formulas_of_not_fits record hquiet hsplit hbefore hf input,
      runWith_typed_of_not_fits record hquiet hformulas hsplit hbefore hf⟩

/-- A text that is no formula and a formula with too many letters, in the options and on two
lines. -/
theorem runWith_sameBlocks_rejected :
    let record : Journal.Entry → String := fun e => e.text ++ "\n"
    let opts : Options :=
      { formulas := ["A%", "A&B"], exitWord := "exit", maxLetters := some 1, threshold := .warn,
        showBanner := false }
    opts.threshold ∈ [.off, .error, .warn] ∧ opts.formulas ≠ [] ∧
      (∀ f ∈ opts.formulas, IsRequest opts.exitWord f) ∧
      runWith record opts [] = ⟨"Error: invalid symbol: '%'\n" ++ separator ++
        "Error: too many propositions: 2 (limit is 1)\n" ++ separator, 0⟩ ∧
      runWith record { opts with formulas := [] } (typed ["A%", "A&B"]) =
        ⟨prompt "exit" ++ "Error: invalid symbol: '%'\n" ++ separator ++
          prompt "exit" ++ "Error: too many propositions: 2 (limit is 1)\n" ++ separator ++
          prompt "exit" ++ farewell, 0⟩ := by
  intro record opts
  have hquiet : opts.threshold ∈ [.off, .error, .warn] := by decide
  have hne : opts.formulas ≠ [] := by decide
  have hformulas : ∀ f ∈ opts.formulas, IsRequest opts.exitWord f := by
    intro f hf
    have hcases : f = "A%" ∨ f = "A&B" := by simpa [opts] using hf
    rcases hcases with rfl | rfl <;> exact ⟨by decide, by decide, by decide⟩
  have hfits : ∀ f ∈ opts.formulas, Fits opts.maxLetters f := by
    have hnone : ∀ f ∈ opts.formulas, (report opts.maxLetters f).fault = none := by decide
    exact fun f hf => fault_report_eq_none_iff.1 (hnone f hf)
  obtain ⟨hbatch, hdialogue⟩ :=
    (runWith_sameBlocks record hquiet hne hformulas []).complete hfits
  refine ⟨hquiet, hne, hformulas, ?_, ?_⟩
  · rw [hbatch]
    decide +kernel
  · rw [show typed ["A%", "A&B"] = typed opts.formulas from rfl, hdialogue]
    decide +kernel

/-! ## Two runs that are broken off -/

lemma isRequest_label {exitWord : String} {op : BinaryConnective} {f g : Formula}
    (hword : (normalized exitWord).head? ≠ some '(') (hf : (Formula.binary op f g).IsStandard) :
    IsRequest exitWord (Formula.binary op f g).label where
  newline_notMem h := absurd (Formula.not_isBlank_of_mem_label hf h) (by decide)
  isBlankLine_eq_false := isBlankLine_of_head? head?_label_binary
  isExit_eq_false := isExit_of_head? head?_label_binary hword

/-- If the only formula does not fit, both runs end before its block. -/
lemma runWith_of_not_fits (record : Journal.Entry → String) {formula : String}
    (h : IsRequest "exit" formula) (hfits : ¬Fits none formula) :
    runWith record { formulas := [formula] } [] = ⟨banner ++ "\n", brokenOffStatus⟩ ∧
      runWith record {} (typed [formula]) = ⟨banner ++ (prompt "exit" ++ "\n"), brokenOffStatus⟩ := by
  let opts : Options := { formulas := [formula] }
  have hquiet : opts.threshold ∈ [.off, .error, .warn] := List.mem_of_elem_eq_true rfl
  have hformulas : ∀ f ∈ opts.formulas, IsRequest opts.exitWord f :=
    List.forall_mem_singleton.2 h
  have hsplit : opts.formulas = [] ++ formula :: [] := rfl
  have hbatch := runWith_formulas_of_not_fits record hquiet hsplit (by simp) hfits []
  have hdialogue := runWith_typed_of_not_fits record hquiet hformulas hsplit (by simp) hfits
  exact ⟨hbatch.trans rfl, hdialogue.trans rfl⟩

/-- A formula of one letter breaks both runs off.  Neither of them writes a block, and their
status is not 0. -/
theorem runWith_implies_doubled :
    let record : Journal.Entry → String := fun e => e.text ++ "\n"
    let formula := (Formula.binary .implies (doubled 13) (doubled 13)).label
    let opts : Options := { formulas := [formula] }
    opts.threshold ∈ [.off, .error, .warn] ∧ IsRequest opts.exitWord formula ∧
      runWith record opts [] = ⟨banner ++ "\n", brokenOffStatus⟩ ∧
      runWith record { opts with formulas := [] } (typed [formula]) =
        ⟨banner ++ (prompt "exit" ++ "\n"), brokenOffStatus⟩ ∧
      runWith record opts [] ≠
        ⟨opening opts ++ String.join (opts.formulas.map (blockText opts.maxLetters)), 0⟩ := by
  intro record formula opts
  have hstandard := isStandard_implies_doubled 13
  have hrequest : IsRequest "exit" formula := isRequest_label (by decide) hstandard
  have hfits : ¬Fits none formula := not_fits_label hstandard maxWidth_lt_length_label_doubled
  obtain ⟨hbatch, hdialogue⟩ := runWith_of_not_fits record hrequest hfits
  refine ⟨List.mem_of_elem_eq_true rfl, hrequest, hbatch, hdialogue, ?_⟩
  rw [hbatch]
  intro h
  have hstatus : brokenOffStatus = 0 := (Outcome.mk.inj h).2
  exact absurd hstatus (by decide)

end Console

end TruthTable
