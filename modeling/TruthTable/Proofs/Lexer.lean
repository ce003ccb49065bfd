/-
# Reading back what was written

The written forms of the tokens can be put side by side without anything between them: a
sequence of tokens is found again in its written form (`tokenize_surface`), provided that
its letters can occur in a text at all.  No written form contains a blank, and no written
form is the beginning of a longer one that the reading would prefer.  Other letters are
never read (`isStandard_of_tokenize`).

Conversely, what was read is all of the text, without its blanks (`flatMap_text_of_scan`).
If reading fails, what stands before the character that is reported was read as tokens, and
no token at all begins at that character (`exists_of_scan_eq_error`).  So the text decides in
advance, without any reading, which of the two happens (`tokenize_iff_surface`).
-/
import Mathlib.Data.List.Basic
import Mathlib.Logic.Basic
import TruthTable.Token.Lexer

namespace TruthTable.Token

/-! ## What was written -/

lemma toList_surface (ts : List Token) :
    (surface ts).toList = ts.flatMap fun t => t.text.toList := by
  rw [surface, String.toList_join, List.flatMap_map]

/-- A letter that can occur in a text is no character below `A` or above `Z`. -/
lemma ne_of_isStandard {c d : Char} (hc : (letter c).IsStandard) (hd : d < 'A' ∨ 'Z' < d) :
    c ≠ d := by
  obtain ⟨hA, hZ⟩ := hc
  rintro rfl
  rcases hd with hd | hd
  · exact Char.not_le.2 hd hA
  · exact Char.not_le.2 hd hZ

lemma not_isBlank_of_isStandard {c : Char} (hc : (letter c).IsStandard) :
    Text.isBlank c = false := by
  have hne : ∀ d : Char, d < 'A' ∨ 'Z' < d → (c == d) = false :=
    fun d hd => beq_eq_false_iff_ne.2 (ne_of_isStandard hc hd)
  have hlow : ¬c ≤ '\r' := fun h => absurd (Char.le_trans hc.1 h) (by decide)
  have hhigh : ¬ '\u2000' ≤ c := fun h => absurd (Char.le_trans h hc.2) (by decide)
  simp [Text.isBlank, hlow, hhigh, hne ' ' (by decide), hne '\u0085' (by decide),
    hne '\u00a0' (by decide), hne '\u1680' (by decide), hne '\u2028' (by decide),
    hne '\u2029' (by decide), hne '\u202f' (by decide), hne '\u205f' (by decide),
    hne '\u3000' (by decide)]

/-- No written token contains a blank. -/
lemma not_isBlank_of_mem_text {t : Token} (ht : t.IsStandard) {c : Char}
    (hc : c ∈ t.text.toList) : Text.isBlank c = false := by
  match t with
  | letter d =>
    obtain rfl : c = d := by simpa [text] using hc
    exact not_isBlank_of_isStandard ht
  | leftParen =>
    obtain rfl : c = '(' := by simpa [text] using hc
    rfl
  | rightParen =>
    obtain rfl : c = ')' := by simpa [text] using hc
    rfl
  | connective op =>
    have hsymbol : op.symbol.toList.all (fun d => !Text.isBlank d) = true := by
      cases op with
      | not => rfl
      | binary op => cases op <;> rfl
    simpa using List.all_eq_true.1 hsymbol c hc

lemma ofChar?_letter {c : Char} (hc : (letter c).IsStandard) : ofChar? c = some (letter c) := by
  have hne : ∀ d : Char, d < 'A' ∨ 'Z' < d → c ≠ d := fun d hd => ne_of_isStandard hc hd
  have hAZ : 'A' ≤ c ∧ c ≤ 'Z' := hc
  simp [ofChar?, hAZ, hne '~' (by decide), hne '&' (by decide), hne '|' (by decide),
    hne '^' (by decide), hne '(' (by decide), hne ')' (by decide)]

/-- A letter that can occur in a text starts neither arrow. -/
lemma scan_letter {c : Char} (hc : (letter c).IsStandard) (rest : List Char) :
    scan (c :: rest) = (scan rest).map (letter c :: ·) := by
  rw [scan]
  · rw [ofChar?_letter hc]
  -- the two arrows come before the single characters
  · intro rest' hrest
    exact absurd hrest (ne_of_isStandard hc (by decide))
  · intro rest' hrest
    exact absurd hrest (ne_of_isStandard hc (by decide))

/-- A written token is read as what it is, whatever follows. -/
lemma scan_text_append {t : Token} (ht : t.IsStandard) (rest : List Char) :
    scan (t.text.toList ++ rest) = (scan rest).map (t :: ·) := by
  match t with
  | letter c => simpa [text] using scan_letter ht rest
  | leftParen => simp [text, scan, ofChar?]
  | rightParen => simp [text, scan, ofChar?]
  | connective .not => simp [text, Connective.symbol, scan, ofChar?]
  | connective (.binary op) =>
    cases op <;> simp [text, Connective.symbol, BinaryConnective.symbol, scan, ofChar?]

/-- Written tokens are read one by one, and then what follows them. -/
lemma scan_flatMap_text_append {ts : List Token} (hts : ∀ t ∈ ts, t.IsStandard)
    (rest : List Char) :
    scan ((ts.flatMap fun t => t.text.toList) ++ rest) = (scan rest).map (ts ++ ·) := by
  induction ts with
  | nil =>
    show scan rest = (scan rest).map id
    cases scan rest <;> rfl
  | cons t ts ih =>
    rw [List.flatMap_cons, List.append_assoc, scan_text_append (hts t (by simp)),
      ih fun u hu => hts u (by simp [hu])]
    cases scan rest <;> rfl

lemma scan_surface {ts : List Token} (hts : ∀ t ∈ ts, t.IsStandard) :
    scan (ts.flatMap fun t => t.text.toList) = .ok ts := by
  have h := scan_flatMap_text_append hts []
  rw [List.append_nil] at h
  rw [h]
  exact congrArg Except.ok (List.append_nil ts)

lemma withoutBlanks_surface {ts : List Token} (hts : ∀ t ∈ ts, t.IsStandard) :
    Text.withoutBlanks (surface ts).toList = (surface ts).toList := by
  rw [toList_surface, Text.withoutBlanks, List.filter_eq_self]
  intro c hc
  obtain ⟨t, ht, hc⟩ := List.mem_flatMap.1 hc
  simp [not_isBlank_of_mem_text (hts t ht) hc]

/-- **Tokens are read back from their written form.** -/
lemma tokenize_surface {ts : List Token} (hts : ∀ t ∈ ts, t.IsStandard) :
    tokenize (surface ts) = .ok ts := by
  rw [tokenize, withoutBlanks_surface hts, toList_surface, scan_surface hts]

/-! ## What is read -/

lemma isStandard_of_ofChar? {c : Char} {t : Token} (h : ofChar? c = some t) : t.IsStandard := by
  rw [ofChar?] at h
  split_ifs at h with _ _ _ _ _ _ hAZ <;> obtain rfl := Option.some.inj h
  all_goals first | exact trivial | exact hAZ

lemma text_of_ofChar? {c : Char} {t : Token} (h : ofChar? c = some t) : t.text.toList = [c] := by
  rw [ofChar?] at h
  split_ifs at h with _ _ _ _ _ _ hAZ <;> obtain rfl := Option.some.inj h
  all_goals simp_all [text, Connective.symbol, BinaryConnective.symbol]

/-- A token is read in front of what the rest is read as. -/
lemma exists_of_map_cons_eq_ok {x : Except FormulaError (List Token)} {t : Token}
    {ts : List Token} (h : x.map (t :: ·) = .ok ts) : ∃ us, x = .ok us ∧ ts = t :: us := by
  cases x with
  | error e => cases h
  | ok us => exact ⟨us, rfl, (Except.ok.inj h).symm⟩

/-- The tokens that are read can occur in a text, and they are all of it. -/
lemma flatMap_text_of_scan {cs : List Char} {ts : List Token} (h : scan cs = .ok ts) :
    (∀ t ∈ ts, t.IsStandard) ∧ (ts.flatMap fun t => t.text.toList) = cs := by
  fun_induction scan cs generalizing ts with
  | case1 =>
    obtain rfl : [] = ts := Except.ok.inj h
    exact ⟨by simp, rfl⟩
  | case2 rest ih | case3 rest ih =>
    obtain ⟨us, hus, rfl⟩ := exists_of_map_cons_eq_ok h
    obtain ⟨hstandard, htext⟩ := ih hus
    exact ⟨List.forall_mem_cons.2 ⟨trivial, hstandard⟩, by rw [List.flatMap_cons, htext]; rfl⟩
  | case4 c rest _ _ t ht ih =>
    obtain ⟨us, hus, rfl⟩ := exists_of_map_cons_eq_ok h
    obtain ⟨hstandard, htext⟩ := ih hus
    refine ⟨List.forall_mem_cons.2 ⟨isStandard_of_ofChar? ht, hstandard⟩, ?_⟩
    rw [List.flatMap_cons, text_of_ofChar? ht, htext]
    rfl
  | case5 c rest _ _ hc => cases h

/-- The tokens of a text can occur in a text. -/
lemma isStandard_of_tokenize {s : String} {ts : List Token} (h : tokenize s = .ok ts) :
    ∀ t ∈ ts, t.IsStandard :=
  (flatMap_text_of_scan h).1

/-! ## What cannot be read -/

/-- No token is written at the start of these characters. -/
def StartsNoToken (cs : List Char) : Prop := ∀ t : Token, t.IsStandard → ¬t.text.toList <+: cs

/-- A token is an arrow, or it is what its only character is read as. -/
lemma ofChar?_or_arrow {t : Token} (ht : t.IsStandard) :
    (∃ d, t.text.toList = [d] ∧ ofChar? d = some t) ∨ t = .connective (.binary .iff) ∨
      t = .connective (.binary .implies) := by
  match t with
  | .letter d => exact .inl ⟨d, by simp [text], ofChar?_letter ht⟩
  | .leftParen => exact .inl ⟨'(', rfl, rfl⟩
  | .rightParen => exact .inl ⟨')', rfl, rfl⟩
  | .connective .not => exact .inl ⟨'~', rfl, rfl⟩
  | .connective (.binary .and) => exact .inl ⟨'&', rfl, rfl⟩
  | .connective (.binary .or) => exact .inl ⟨'|', rfl, rfl⟩
  | .connective (.binary .xor) => exact .inl ⟨'^', rfl, rfl⟩
  | .connective (.binary .iff) => exact .inr (.inl rfl)
  | .connective (.binary .implies) => exact .inr (.inr rfl)

/-- Without an arrow, the first character decides. -/
lemma startsNoToken_of_ofChar? {c : Char} {rest : List Char}
    (hiff : ∀ rest', c = '<' → rest = '-' :: '>' :: rest' → False)
    (himplies : ∀ rest', c = '-' → rest = '>' :: rest' → False) (hc : ofChar? c = none) :
    StartsNoToken (c :: rest) := by
  rintro t ht ⟨rest', h⟩
  rcases ofChar?_or_arrow ht with ⟨d, htext, hd⟩ | rfl | rfl
  · rw [htext] at h
    obtain ⟨rfl, -⟩ := List.cons.inj h
    simp [hd] at hc
  · obtain ⟨rfl, hrest⟩ := List.cons.inj h
    exact hiff rest' rfl hrest.symm
  · obtain ⟨rfl, hrest⟩ := List.cons.inj h
    exact himplies rest' rfl hrest.symm

/-- Reading stops where no token begins. -/
lemma scan_of_startsNoToken {c : Char} {rest : List Char} (h : StartsNoToken (c :: rest)) :
    scan (c :: rest) = .error (.invalidSymbol c) := by
  have hc : ofChar? c = none := by
    by_contra hsome
    obtain ⟨t, ht⟩ := Option.ne_none_iff_exists'.1 hsome
    exact h t (isStandard_of_ofChar? ht) (by simp [text_of_ofChar? ht])
  rw [scan]
  · rw [hc]
  · rintro rest' rfl rfl
    exact h (.connective (.binary .iff)) trivial ⟨rest', rfl⟩
  · rintro rest' rfl rfl
    exact h (.connective (.binary .implies)) trivial ⟨rest', rfl⟩

lemma eq_error_of_map_cons_eq_error {x : Except FormulaError (List Token)} {t : Token}
    {e : FormulaError} (h : x.map (t :: ·) = .error e) : x = .error e := by
  cases x with
  | error e' => exact congrArg Except.error (Except.error.inj h)
  | ok us => cases h

/-- If reading fails, tokens were read up to a character at which no token begins. -/
lemma exists_of_scan_eq_error {cs : List Char} {e : FormulaError} (h : scan cs = .error e) :
    ∃ (ts : List Token) (c : Char) (rest : List Char), (∀ t ∈ ts, t.IsStandard) ∧
      cs = (ts.flatMap fun t => t.text.toList) ++ c :: rest ∧ StartsNoToken (c :: rest) ∧
        e = .invalidSymbol c := by
  fun_induction scan cs with
  | case1 => cases h
  | case2 rest ih =>
    obtain ⟨ts, c, rest', hts, rfl, hstart, he⟩ := ih (eq_error_of_map_cons_eq_error h)
    exact ⟨.connective (.binary .iff) :: ts, c, rest',
      List.forall_mem_cons.2 ⟨trivial, hts⟩, rfl, hstart, he⟩
  | case3 rest ih =>
    obtain ⟨ts, c, rest', hts, rfl, hstart, he⟩ := ih (eq_error_of_map_cons_eq_error h)
    exact ⟨.connective (.binary .implies) :: ts, c, rest',
      List.forall_mem_cons.2 ⟨trivial, hts⟩, rfl, hstart, he⟩
  | case4 c rest _ _ t ht ih =>
    obtain ⟨ts, d, rest', hts, rfl, hstart, he⟩ := ih (eq_error_of_map_cons_eq_error h)
    refine ⟨t :: ts, d, rest', List.forall_mem_cons.2 ⟨isStandard_of_ofChar? ht, hts⟩, ?_,
      hstart, he⟩
    rw [List.flatMap_cons, text_of_ofChar? ht]
    rfl
  | case5 c rest hiff himplies hc =>
    exact ⟨[], c, rest, by simp, rfl, startsNoToken_of_ofChar? hiff himplies hc,
      (Except.error.inj h).symm⟩

/-- A text cannot be read only because of a character in it. -/
lemma exists_of_tokenize_eq_error {s : String} {e : FormulaError} (h : tokenize s = .error e) :
    ∃ c, e = .invalidSymbol c := by
  obtain ⟨-, c, -, -, -, -, he⟩ := exists_of_scan_eq_error h
  exact ⟨c, he⟩

/-! ## The surface language -/

lemma tokenize_eq_ok_iff {s : String} {ts : List Token} :
    tokenize s = .ok ts ↔
      (∀ t ∈ ts, t.IsStandard) ∧ (surface ts).toList = Text.withoutBlanks s.toList := by
  rw [toList_surface]
  constructor
  · exact flatMap_text_of_scan
  · rintro ⟨hts, htext⟩
    rw [tokenize, ← htext, scan_surface hts]

lemma tokenize_eq_error_iff {s : String} {c : Char} :
    tokenize s = .error (.invalidSymbol c) ↔
      ∃ ts rest, (∀ t ∈ ts, t.IsStandard) ∧
        Text.withoutBlanks s.toList = (surface ts).toList ++ c :: rest ∧
          StartsNoToken (c :: rest) := by
  constructor
  · intro h
    obtain ⟨ts, d, rest, hts, htext, hstart, he⟩ := exists_of_scan_eq_error h
    obtain rfl := FormulaError.invalidSymbol.inj he
    exact ⟨ts, rest, hts, by rw [htext, toList_surface], hstart⟩
  · rintro ⟨ts, rest, hts, htext, hstart⟩
    rw [tokenize, htext, toList_surface, scan_flatMap_text_append hts,
      scan_of_startsNoToken hstart]
    rfl

/-- **Reading accepts exactly the surface language**: the texts that, without their blanks, are
written tokens.  Any other text has a first place, after some written tokens, where no token
begins, and the character there is reported.  So reading and writing are inverse to each other,
and no arrow can be divided in a second way. -/
theorem tokenize_iff_surface :
    (∀ s ts, tokenize s = .ok ts ↔
      (∀ t ∈ ts, t.IsStandard) ∧ (surface ts).toList = Text.withoutBlanks s.toList) ∧
    (∀ s c, tokenize s = .error (.invalidSymbol c) ↔
      ∃ ts rest, (∀ t ∈ ts, t.IsStandard) ∧
        Text.withoutBlanks s.toList = (surface ts).toList ++ c :: rest ∧
          StartsNoToken (c :: rest)) ∧
    (∀ s, Xor (∃ ts, tokenize s = .ok ts) (∃ c, tokenize s = .error (.invalidSymbol c))) ∧
    ∀ ts, (∀ t ∈ ts, t.IsStandard) →
      Text.withoutBlanks (surface ts).toList = (surface ts).toList ∧
        tokenize (surface ts) = .ok ts := by
  refine ⟨fun s ts => tokenize_eq_ok_iff, fun s c => tokenize_eq_error_iff, fun s => ?_,
    fun ts hts => ⟨withoutBlanks_surface hts, tokenize_surface hts⟩⟩
  cases h : tokenize s with
  | ok ts => exact .inl ⟨⟨ts, rfl⟩, by simp⟩
  | error e =>
    obtain ⟨c, rfl⟩ := exists_of_tokenize_eq_error h
    exact .inr ⟨⟨c, rfl⟩, by simp⟩

/-- After `A` the characters `<-B` begin with no token, though `<->` does begin with `<-`. -/
example : tokenize "A < - B" = .error (.invalidSymbol '<') := by decide

end TruthTable.Token
