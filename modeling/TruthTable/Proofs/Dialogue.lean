/-
# The dialogue line by line

A dialogue keeps nothing from one line to the next.  Each line gets its turn: the question,
and unless the line is blank the report on it and the line that closes the report.  Then the
dialogue is the one about the rest of the input (`LineByLine.answered`).  It ends with the
first exit line, or the first line that cannot be decoded, whatever comes after
(`LineByLine.unread`).  How a line ends does not matter (`LineByLine.unfinished` and
`LineByLine.carriageReturns`): what ends it is blank, and the replies are all that the
dialogue takes from its lines (`converse_congr`).

There is one more way to end.  A report that is broken off takes the dialogue with it, and the
lines after it get no turn (`LineByLine.brokenOff`, `dialogue_implies_doubled`).
-/
import TruthTable.Proofs.Lines
import TruthTable.Proofs.Report

namespace TruthTable

open Table (Allows maxWidth)

/-! ## Blanks at the end of a line -/

lemma Token.tokenize_append_blank (text : String) {c : Char} (hc : Text.isBlank c = true) :
    tokenize (text ++ String.singleton c) = tokenize text := by
  rw [tokenize, tokenize, String.toList_append, String.toList_singleton,
    Text.withoutBlanks_append_singleton hc]

namespace Console

section

variable {c : Char}

lemma trim_append_blank (text : String) (hc : Text.isBlank c = true) :
    Text.trim (text ++ String.singleton c).toList = Text.trim text.toList := by
  rw [String.toList_append, String.toList_singleton, Text.trim_append_singleton hc]

lemma report_append_blank (limit : Option ℕ) (text : String) (hc : Text.isBlank c = true) :
    report limit (text ++ String.singleton c) = report limit text := by
  rw [report, report, Token.tokenize_append_blank text hc]

lemma isBlankLine_append_blank (text : String) (hc : Text.isBlank c = true) :
    isBlankLine (text ++ String.singleton c) = isBlankLine text := by
  rw [isBlankLine, isBlankLine, trim_append_blank text hc]

lemma isExit_append_blank (exitWord text : String) (hc : Text.isBlank c = true) :
    isExit exitWord (text ++ String.singleton c) = isExit exitWord text := by
  rw [isExit, normalized, trim_append_blank text hc]
  rfl

end

/-! ## Replies -/

@[simp] lemma Options.host_exitWord (opts : Options) : opts.host.exitWord = opts.exitWord := rfl

@[simp] lemma Options.host_answer (opts : Options) (text : String) :
    opts.host.answer text = block opts.maxLetters text := rfl

/-- What follows a line is the same with one more blank at its end. -/
lemma reply_append_blank (opts : Options) (line : List UInt8) {c : Char}
    (hc : Text.isBlank c = true) :
    reply opts.host (line ++ encode (String.singleton c)) = reply opts.host line := by
  rw [reply, reply, decode?_append_encode]
  cases decode? line with
  | none => rfl
  | some text =>
    simp only [Option.map_some, isBlankLine_append_blank text hc, isExit_append_blank _ text hc,
      Options.host_answer, block, report_append_blank _ text hc]

lemma reply_append_newline (opts : Options) (line : List UInt8) :
    reply opts.host (line ++ [newline]) = reply opts.host line :=
  reply_append_blank opts line (c := '\n') (by decide)

lemma reply_append_carriageReturn (opts : Options) (line : List UInt8) :
    reply opts.host (line ++ [carriageReturn]) = reply opts.host line :=
  reply_append_blank opts line (c := '\r') (by decide)

section

variable {host : Host} {line : List UInt8}

/-- After this line the dialogue goes on. -/
lemma converse_cons_of_none (h : (reply host line).ending? = none) (rest : List (List UInt8)) :
    converse host (line :: rest) =
      ⟨prompt host.exitWord ++ (reply host line).text ++ (converse host rest).output,
        (converse host rest).ending⟩ := by
  rw [converse, h]

/-- After this line the dialogue is over. -/
lemma converse_cons_of_some {ending : Ending} (h : (reply host line).ending? = some ending)
    (rest : List (List UInt8)) :
    converse host (line :: rest) = ⟨prompt host.exitWord ++ (reply host line).text, ending⟩ := by
  rw [converse, h]

/-- Lines with the same replies lead to the same dialogue. -/
lemma converse_congr {ls ls' : List (List UInt8)}
    (h : ls.map (reply host) = ls'.map (reply host)) : converse host ls = converse host ls' := by
  induction ls generalizing ls' with
  | nil =>
    obtain rfl : ls' = [] := List.map_eq_nil_iff.1 h.symm
    rfl
  | cons line rest ih =>
    obtain ⟨line', rest', rfl, hline, hrest⟩ := List.map_eq_cons_iff.1 h.symm
    rw [converse, converse, hline, ih hrest.symm]

end

lemma map_reply_lines_append_newline (opts : Options) {x : List UInt8} (hx : ¬Finished x) :
    (lines (x ++ [newline])).map (reply opts.host) = (lines x).map (reply opts.host) := by
  induction x using lines_induction with
  | nil => exact absurd (.inl rfl) hx
  | unfinished body hbody hne =>
    rw [lines_append_newline_cons hbody, lines_of_not_mem hbody hne]
    simp [lines, reply_append_newline]
  | line body rest hbody ih =>
    rw [finished_append_newline_cons] at hx
    rw [List.append_assoc, List.cons_append, lines_append_newline_cons hbody,
      lines_append_newline_cons hbody, List.map_cons, List.map_cons, ih hx]

lemma map_reply_lines_withCarriageReturns (opts : Options) (x : List UInt8) :
    (lines (withCarriageReturns x)).map (reply opts.host) = (lines x).map (reply opts.host) := by
  induction x using lines_induction with
  | nil => rfl
  | unfinished body hbody hne => rw [withCarriageReturns_of_not_mem hbody]
  | line body rest hbody ih =>
    have hlonger : newline ∉ body ++ [carriageReturn] := by
      simp only [List.mem_append, hbody, List.mem_singleton, false_or]
      decide
    rw [withCarriageReturns_append_newline_cons hbody, lines_append_newline_cons hlonger,
      lines_append_newline_cons hbody, List.map_cons, List.map_cons, ih, reply_append_newline,
      reply_append_newline, reply_append_carriageReturn]

/-! ## Turns -/

/-- A line after which the dialogue is over: it can be decoded, it is not blank, and it is an
exit word. -/
def IsExitLine (exitWord : String) (line : List UInt8) : Prop :=
  ∃ text, decode? line = some text ∧ isBlankLine text = false ∧ isExit exitWord text = true

/-- Whether the report on a text gets to its end: the label of its table, if there is one, is
not too long for a column. -/
def Fits (limit : Option ℕ) (text : String) : Prop :=
  ∀ ts t, Token.tokenize text = .ok ts → Token.isWellFormed ts = true → Allows limit ts →
    Table.ofTokens ts = .ok t → t.formula.length + 2 ≤ maxWidth

/-- What is written about a line with this text, from the question on. -/
def turn (opts : Options) (text : String) : String :=
  prompt opts.exitWord ++
    if isBlankLine text then "" else (report opts.maxLetters text).text ++ separator

/-- What is written about lines with these texts. -/
def turns (opts : Options) (texts : List String) : String := String.join (texts.map (turn opts))

lemma report_of_not_fits {limit : Option ℕ} {text : String} (h : ¬Fits limit text) :
    report limit text = { text := "\n", fault := some .tooWide } := by
  simp only [Fits, not_forall, Nat.not_le] at h
  obtain ⟨ts, t, hs, hts, hallows, ht, hwide⟩ := h
  obtain ⟨f, hf⟩ := Table.exists_table_of_tokenize hs hts
  obtain rfl : f.table = t := Except.ok.inj (hf.symm.trans ht)
  rw [report_of_table hs hts hallows hf, Table.render_table_of_lt hwide]

/-- A report that gets to its end is closed by a line. -/
lemma block_of_fits {limit : Option ℕ} {text : String} (h : Fits limit text) :
    block limit text = { text := (report limit text).text ++ separator } := by
  have hnone : (report limit text).fault = none := fault_report_eq_none_iff.2 h
  show Report.append _ _ = _
  simp [Report.append, hnone]

lemma block_of_not_fits {limit : Option ℕ} {text : String} (h : ¬Fits limit text) :
    block limit text = { text := "\n", fault := some .tooWide } := by
  show Report.append _ _ = _
  rw [report_of_not_fits h]
  rfl

section

variable {opts : Options} {line : List UInt8} {text : String}

lemma reply_of_isExitLine (h : IsExitLine opts.exitWord line) : reply opts.host line = .stop := by
  obtain ⟨text, htext, hblank, hexit⟩ := h
  simp [reply, htext, hblank, hexit]

lemma reply_of_undecodable (h : decode? line = none) : reply opts.host line = .invalid := by
  rw [reply, h]

lemma reply_of_blank (htext : decode? line = some text) (hblank : isBlankLine text = true) :
    reply opts.host line = .answer { text := "" } := by
  simp [reply, htext, hblank]

lemma reply_of_text (htext : decode? line = some text) (hblank : isBlankLine text = false)
    (hexit : ¬IsExitLine opts.exitWord line) :
    reply opts.host line = .answer (block opts.maxLetters text) := by
  have hno : isExit opts.exitWord text = false := by
    by_contra h
    exact hexit ⟨text, htext, hblank, by simpa using h⟩
  simp [reply, htext, hblank, hno]

lemma reply_of_fits (htext : decode? line = some text) (hexit : ¬IsExitLine opts.exitWord line)
    (hfits : isBlankLine text = false → Fits opts.maxLetters text) :
    reply opts.host line = .answer {
      text := if isBlankLine text then "" else (report opts.maxLetters text).text ++ separator } := by
  cases hblank : isBlankLine text with
  | true => exact reply_of_blank htext hblank
  | false =>
    rw [reply_of_text htext hblank hexit, block_of_fits (hfits hblank)]
    rfl

/-- The turn of a line, and then the dialogue about the rest. -/
lemma converse_cons_of_fits (htext : decode? line = some text)
    (hexit : ¬IsExitLine opts.exitWord line)
    (hfits : isBlankLine text = false → Fits opts.maxLetters text) (rest : List (List UInt8)) :
    converse opts.host (line :: rest) =
      ⟨turn opts text ++ (converse opts.host rest).output, (converse opts.host rest).ending⟩ := by
  have hreply := reply_of_fits htext hexit hfits
  rw [converse_cons_of_none (by rw [hreply]; rfl), hreply]
  rfl

/-- A report that is broken off takes the dialogue with it. -/
lemma converse_cons_of_not_fits (htext : decode? line = some text)
    (hblank : isBlankLine text = false) (hexit : ¬IsExitLine opts.exitWord line)
    (hfits : ¬Fits opts.maxLetters text) (rest : List (List UInt8)) :
    converse opts.host (line :: rest) = ⟨prompt opts.exitWord ++ "\n", .brokenOff .tooWide⟩ := by
  have hreply := reply_of_text htext hblank hexit
  rw [block_of_not_fits hfits] at hreply
  rw [converse_cons_of_some (by rw [hreply]; rfl), hreply]
  rfl

end

section

variable {opts : Options} {ls : List (List UInt8)} {texts : List String}

/-- The turns of some lines, and then the dialogue about the rest. -/
lemma converse_append_of_fits (htexts : ls.map decode? = texts.map some)
    (hexit : ∀ line ∈ ls, ¬IsExitLine opts.exitWord line)
    (hfits : ∀ text ∈ texts, isBlankLine text = false → Fits opts.maxLetters text)
    (rest : List (List UInt8)) :
    converse opts.host (ls ++ rest) =
      ⟨turns opts texts ++ (converse opts.host rest).output, (converse opts.host rest).ending⟩ := by
  induction ls generalizing texts with
  | nil =>
    obtain rfl : texts = [] := List.map_eq_nil_iff.1 htexts.symm
    simp [turns]
  | cons line ls ih =>
    obtain ⟨text, texts, rfl, hline, hls⟩ := List.map_eq_cons_iff.1 htexts.symm
    rw [List.forall_mem_cons] at hexit hfits
    rw [List.cons_append, converse_cons_of_fits hline.symm hexit.1 hfits.1,
      ih hls.symm hexit.2 hfits.2]
    simp [turns, String.append_assoc]

/-- Nothing is read after an exit line or a line that cannot be decoded. -/
lemma converse_append_of_end
    (h : ∃ line ∈ ls, decode? line = none ∨ IsExitLine opts.exitWord line)
    (rest : List (List UInt8)) : converse opts.host (ls ++ rest) = converse opts.host ls := by
  induction ls with
  | nil => simp at h
  | cons line ls ih =>
    rw [List.cons_append]
    cases hreply : (reply opts.host line).ending? with
    | some ending => rw [converse_cons_of_some hreply, converse_cons_of_some hreply]
    | none =>
      -- this line ends nothing, so the end is among the later lines
      have hlater : ∃ line ∈ ls, decode? line = none ∨ IsExitLine opts.exitWord line := by
        rw [List.exists_mem_cons_iff] at h
        refine h.resolve_left ?_
        rintro (hnone | hexit)
        · rw [reply_of_undecodable hnone] at hreply
          cases hreply
        · rw [reply_of_isExitLine hexit] at hreply
          cases hreply
      rw [converse_cons_of_none hreply, converse_cons_of_none hreply, ih hlater]

end

/-! ## The dialogue about an input -/

/-- How a dialogue depends on its input. -/
structure LineByLine (opts : Options) : Prop where
  /-- Finished lines that can be decoded, none of them an exit line, get their turns, and then
  the dialogue is the one about the rest. -/
  answered : ∀ {x texts}, Finished x → (lines x).map decode? = texts.map some →
    (∀ line ∈ lines x, ¬IsExitLine opts.exitWord line) →
    (∀ text ∈ texts, isBlankLine text = false → Fits opts.maxLetters text) → ∀ y,
      dialogue opts (x ++ y) =
        ⟨turns opts texts ++ (dialogue opts y).output, (dialogue opts y).ending⟩
  /-- A report that is broken off ends the dialogue. -/
  brokenOff : ∀ {y line rest text}, lines y = line :: rest → decode? line = some text →
    isBlankLine text = false → ¬IsExitLine opts.exitWord line → ¬Fits opts.maxLetters text →
      dialogue opts y = ⟨prompt opts.exitWord ++ "\n", .brokenOff .tooWide⟩
  /-- What comes after an exit line or a line that cannot be decoded is not read. -/
  unread : ∀ {x}, Finished x →
    (∃ line ∈ lines x, decode? line = none ∨ IsExitLine opts.exitWord line) → ∀ y,
      dialogue opts (x ++ y) = dialogue opts x
  /-- An unfinished line is like a finished one. -/
  unfinished : ∀ {x}, ¬Finished x → dialogue opts (x ++ [newline]) = dialogue opts x
  /-- Carriage returns before the ends of the lines change nothing. -/
  carriageReturns : ∀ x, dialogue opts (withCarriageReturns x) = dialogue opts x

/-- **The dialogue goes line by line.** -/
theorem dialogue_lineByLine (opts : Options) : LineByLine opts where
  answered := by
    intro x texts hx htexts hexit hfits y
    rw [dialogue, lines_append hx, converse_append_of_fits htexts hexit hfits]
    rfl
  brokenOff := by
    intro y line rest text hy htext hblank hexit hfits
    rw [dialogue, hy, converse_cons_of_not_fits htext hblank hexit hfits]
  unread := by
    intro x hx h y
    rw [dialogue, lines_append hx, converse_append_of_end h]
    rfl
  unfinished hx := converse_congr (map_reply_lines_append_newline opts hx)
  carriageReturns x := converse_congr (map_reply_lines_withCarriageReturns opts x)

-- the word `Quit` ends the dialogue before the last line
example :
    let opts : Options :=
      { formulas := [], exitWord := "exit", maxLetters := none, threshold := .warn,
        showBanner := true }
    dialogue opts (encode "A%\r\n\n Quit \nA") =
      ⟨prompt "exit" ++ "Error: invalid symbol: '%'\n" ++ separator ++ prompt "exit" ++
        prompt "exit", .finished⟩ := by decide +kernel

/-! ## A dialogue that is broken off -/

lemma length_label_implies_doubled (n : ℕ) :
    (Formula.binary .implies (doubled n) (doubled n)).label.length + 2 = 8 * 2 ^ n := by
  have hpart := length_label_doubled n
  have hsymbol : BinaryConnective.implies.symbol.length = 2 := by decide
  rw [Formula.length_label_binary, hsymbol]
  omega

lemma fits_append_newline {limit : Option ℕ} {text : String} :
    Fits limit (text ++ "\n") ↔ Fits limit text := by
  have htokens : Token.tokenize (text ++ "\n") = Token.tokenize text :=
    Token.tokenize_append_blank text (c := '\n') (by decide)
  rw [Fits, Fits, htokens]

lemma not_fits_label {f : Formula} (hf : f.IsStandard) (hwide : maxWidth < f.label.length + 2) :
    ¬Fits none f.label := by
  intro h
  have hle := h f.tokens f.table (f.tokenize_label hf) f.isWellFormed_tokens
    (Table.allows_none _) (f.ofTokens_tokens hf)
  rw [Table.formula_table] at hle
  omega

section

variable {text : String}

/-- A text that begins with a parenthesis does so without its blanks. -/
lemma head?_trim (h : text.toList.head? = some '(') :
    (Text.trim text.toList).head? = some '(' := by
  obtain ⟨cs, hcs⟩ := List.head?_eq_some_iff.1 h
  rw [hcs, Text.trim_cons (by decide)]
  rfl

lemma isBlankLine_of_head? (h : text.toList.head? = some '(') : isBlankLine text = false := by
  obtain ⟨cs, hcs⟩ := List.head?_eq_some_iff.1 (head?_trim h)
  rw [isBlankLine, hcs]
  rfl

/-- In lower case it does so as well. -/
lemma head?_normalized (h : text.toList.head? = some '(') :
    (normalized text).head? = some '(' := by
  obtain ⟨cs, hcs⟩ := List.head?_eq_some_iff.1 (head?_trim h)
  have hlower : Text.lowerChar '(' = ['('] := by decide
  rw [normalized, hcs, Text.lower, Text.lowerFrom, if_neg (by decide), hlower]
  rfl

/-- No such text is an exit word, unless the exit word begins in this way. -/
lemma isExit_of_head? {exitWord : String} (h : text.toList.head? = some '(')
    (hword : (normalized exitWord).head? ≠ some '(') : isExit exitWord text = false := by
  have hhead := head?_normalized h
  rw [isExit, Bool.or_eq_false_iff, beq_eq_false_iff_ne, beq_eq_false_iff_ne]
  constructor
  · intro heq
    exact hword (heq ▸ hhead)
  · intro heq
    rw [heq] at hhead
    exact absurd hhead (by decide)

end

section

variable {opts : Options} {op : BinaryConnective} {f g : Formula}

/-- The label of a standard formula is a line of its own. -/
lemma lines_label {f : Formula} (hf : f.IsStandard) :
    lines (encode (f.label ++ "\n")) = [encode (f.label ++ "\n")] := by
  have hlabel : '\n' ∉ f.label.toList := fun h =>
    absurd (f.not_isBlank_of_mem_label hf h) (by decide)
  have h := lines_encode_append hlabel []
  rwa [List.append_nil] at h

lemma head?_label_binary : (Formula.binary op f g).label.toList.head? = some '(' := by
  rw [Formula.toList_label_binary]
  rfl

lemma head?_line_binary : ((Formula.binary op f g).label ++ "\n").toList.head? = some '(' := by
  rw [String.toList_append, List.head?_append, head?_label_binary]
  rfl

lemma not_isExitLine_label {exitWord : String} (hword : (normalized exitWord).head? ≠ some '(') :
    ¬IsExitLine exitWord (encode ((Formula.binary op f g).label ++ "\n")) := by
  rintro ⟨text, htext, -, h⟩
  rw [decode?_eq_some_iff.2 rfl] at htext
  rw [← Option.some.inj htext, isExit_of_head? head?_line_binary hword] at h
  cases h

/-- A formula whose label is too long breaks the dialogue off. -/
lemma dialogue_label (hword : (normalized opts.exitWord).head? ≠ some '(')
    (hlimit : opts.maxLetters = none) (hf : (Formula.binary op f g).IsStandard)
    (hwide : maxWidth < (Formula.binary op f g).label.length + 2) :
    dialogue opts (encode ((Formula.binary op f g).label ++ "\n")) =
      ⟨prompt opts.exitWord ++ "\n", .brokenOff .tooWide⟩ := by
  have hfits : ¬Fits opts.maxLetters ((Formula.binary op f g).label ++ "\n") := by
    rw [hlimit, fits_append_newline]
    exact not_fits_label hf hwide
  rw [dialogue, lines_label hf]
  exact converse_cons_of_not_fits (decode?_eq_some_iff.2 rfl)
    (isBlankLine_of_head? head?_line_binary) (not_isExitLine_label hword) hfits []

end

lemma maxWidth_lt_length_label_doubled :
    maxWidth < (Formula.binary .implies (doubled 13) (doubled 13)).label.length + 2 := by
  rw [length_label_implies_doubled]
  decide

/-- A formula of one letter breaks the dialogue off.  Its line can be decoded and is no exit
line, but nothing is written after the empty line that opens its report. -/
theorem dialogue_implies_doubled :
    let opts : Options :=
      { formulas := [], exitWord := "exit", maxLetters := none, threshold := .warn,
        showBanner := true }
    let text := (Formula.binary .implies (doubled 13) (doubled 13)).label ++ "\n"
    let x := encode text
    Finished x ∧ (lines x).map decode? = [text].map some ∧
      (∀ line ∈ lines x, ¬IsExitLine opts.exitWord line) ∧
      dialogue opts (x ++ []) = ⟨prompt "exit" ++ "\n", .brokenOff .tooWide⟩ ∧
      dialogue opts (x ++ []) ≠
        ⟨turns opts [text] ++ (dialogue opts []).output, (dialogue opts []).ending⟩ := by
  intro opts text x
  have hword : (normalized opts.exitWord).head? ≠ some '(' := by decide
  have hlines : lines x = [x] := lines_label (isStandard_implies_doubled 13)
  have hdialogue : dialogue opts (x ++ []) = ⟨prompt "exit" ++ "\n", .brokenOff .tooWide⟩ := by
    rw [List.append_nil]
    exact dialogue_label hword rfl (isStandard_implies_doubled 13)
      maxWidth_lt_length_label_doubled
  refine ⟨finished_encode _, ?_, ?_, hdialogue, ?_⟩
  · rw [hlines, List.map_cons, decode?_eq_some_iff.2 (show x = encode text from rfl)]
    rfl
  · rw [hlines, List.forall_mem_singleton]
    exact not_isExitLine_label hword
  · rw [hdialogue]
    intro h
    cases (Transcript.mk.inj h).2

end Console

end TruthTable
