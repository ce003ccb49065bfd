/-
# Labels determine formulas

The first character of a label tells whether it labels a letter, a negation or a binary
formula, as long as no letter is written like a negation or an opening parenthesis.  After
that the label can be read without looking ahead: no label is the beginning of another one,
and no symbol of a binary connective is the beginning of another one.  So a label
determines its formula (`label_injective`), with letters that are otherwise arbitrary.

The tokens of a label are the formula again, fully parenthesised (`surface_tokens`,
`reads_tokens`).
-/
import Mathlib.Data.List.Basic
import TruthTable.Proofs.Reading

namespace TruthTable

/-- No symbol of a binary connective is the beginning of another one. -/
lemma BinaryConnective.symbol_append_inj {op op' : BinaryConnective} {xs ys : List Char}
    (h : op.symbol.toList ++ xs = op'.symbol.toList ++ ys) : op = op' ∧ xs = ys := by
  cases op <;> cases op' <;> simp_all [symbol]

lemma Token.mem_filterMap_letter? {c : Char} {ts : List Token} :
    c ∈ ts.filterMap letter? ↔ letter c ∈ ts := by
  rw [List.mem_filterMap]
  constructor
  · rintro ⟨t, ht, hc⟩
    match t with
    | letter d =>
      obtain rfl := Option.some.inj hc
      exact ht
  · exact fun h => ⟨letter c, h, rfl⟩

namespace Formula

/-! ## Parts of a formula -/

/-- The parts of a part are parts of the whole. -/
lemma subformulas_subset_of_mem {u f : Formula} (h : u ∈ f.subformulas) :
    u.subformulas ⊆ f.subformulas := by
  induction f with
  | letter c =>
    obtain rfl : u = .letter c := by simpa [subformulas] using h
    exact fun _ hw => hw
  | not f ih =>
    rcases List.mem_append.1 h with h | h
    · exact fun w hw => List.mem_append_left _ (ih h hw)
    · obtain rfl : u = .not f := by simpa using h
      exact fun _ hw => hw
  | binary op f g ihf ihg =>
    rcases List.mem_append.1 h with h | h
    · refine fun w hw => List.mem_append_left _ (List.mem_append.2 ?_)
      exact (List.mem_append.1 h).imp (fun h => ihf h hw) fun h => ihg h hw
    · obtain rfl : u = .binary op f g := by simpa using h
      exact fun _ hw => hw

lemma letter_mem_subformulas {c : Char} {f : Formula} :
    letter c ∈ f.subformulas ↔ c ∈ f.letters := by
  induction f with
  | letter d => simp [subformulas, letters]
  | not f ih => simp [subformulas, letters, ih]
  | binary op f g ihf ihg => simp [subformulas, letters, ihf, ihg]

lemma letters_subset_of_mem_subformulas {u f : Formula} (h : u ∈ f.subformulas) :
    u.letters ⊆ f.letters := by
  intro c hc
  rw [← letter_mem_subformulas] at hc ⊢
  exact subformulas_subset_of_mem h hc

/-! ## Reading a label from the left -/

/-- No letter of the formula is the first character of a compound label. -/
def Legible (f : Formula) : Prop := ∀ c ∈ f.letters, c ≠ '~' ∧ c ≠ '('

instance (f : Formula) : Decidable f.Legible := List.decidableBAll _ f.letters

lemma Legible.of_mem_subformulas {u f : Formula} (hf : f.Legible) (h : u ∈ f.subformulas) :
    u.Legible :=
  fun c hc => hf c (letters_subset_of_mem_subformulas h hc)

lemma legible_not {f : Formula} : (not f).Legible ↔ f.Legible := Iff.rfl

lemma legible_binary {op : BinaryConnective} {f g : Formula} :
    (binary op f g).Legible ↔ f.Legible ∧ g.Legible := by
  simp only [Legible, letters, List.mem_append, or_imp, forall_and]
  tauto

/-- All letters of the formula can occur in a text. -/
def IsStandard (f : Formula) : Prop := ∀ c ∈ f.letters, (Token.letter c).IsStandard

lemma isStandard_iff {ts : List Token} {f : Formula}
    (hts : ts.filterMap Token.letter? = f.letters) :
    f.IsStandard ↔ ∀ t ∈ ts, t.IsStandard := by
  rw [IsStandard, ← hts]
  constructor
  · intro h t ht
    match t with
    | .letter c => exact h c (Token.mem_filterMap_letter?.2 ht)
    | .connective _ | .leftParen | .rightParen => exact trivial
  · exact fun h c hc => h _ (Token.mem_filterMap_letter?.1 hc)

lemma IsStandard.of_mem_subformulas {u f : Formula} (hf : f.IsStandard)
    (h : u ∈ f.subformulas) : u.IsStandard :=
  fun c hc => hf c (letters_subset_of_mem_subformulas h hc)

lemma IsStandard.legible {f : Formula} (hf : f.IsStandard) : f.Legible := by
  intro c hc
  constructor
  · rintro rfl
    exact absurd (hf '~' hc) (by decide)
  · rintro rfl
    exact absurd (hf '(' hc) (by decide)

@[simp] lemma toList_label_letter (c : Char) : (letter c).label.toList = [c] := by
  simp [label]

@[simp] lemma toList_label_not (f : Formula) : (not f).label.toList = '~' :: f.label.toList := by
  simp [label, Connective.symbol]

@[simp] lemma toList_label_binary (op : BinaryConnective) (f g : Formula) :
    (binary op f g).label.toList =
      '(' :: (f.label.toList ++ (op.symbol.toList ++ (g.label.toList ++ [')']))) := by
  simp [label, Connective.symbol]

/-- A text begins with the label of at most one formula. -/
lemma label_append_inj {f g : Formula} {xs ys : List Char} (hf : f.Legible) (hg : g.Legible)
    (h : f.label.toList ++ xs = g.label.toList ++ ys) : f = g ∧ xs = ys := by
  induction f generalizing g xs ys with
  | letter c =>
    have hc := hf c (by simp [letters])
    cases g with
    | letter d => simpa using h
    | not g => exact absurd (by simpa using congrArg List.head? h) hc.1
    | binary op g g' => exact absurd (by simpa using congrArg List.head? h) hc.2
  | not f ih =>
    cases g with
    | letter d =>
      have hd := hg d (by simp [letters])
      exact absurd (by simpa using (congrArg List.head? h).symm) hd.1
    | not g =>
      have hrest : f.label.toList ++ xs = g.label.toList ++ ys := by simpa using h
      obtain ⟨rfl, rfl⟩ := ih (legible_not.1 hf) (legible_not.1 hg) hrest
      exact ⟨rfl, rfl⟩
    | binary op g g' => simp at h
  | binary op f f' ihf ihf' =>
    cases g with
    | letter d =>
      have hd := hg d (by simp [letters])
      exact absurd (by simpa using (congrArg List.head? h).symm) hd.2
    | not g => simp at h
    | binary op' g g' =>
      -- the left label, the symbol and the right label come off one after the other
      rw [legible_binary] at hf hg
      simp only [toList_label_binary, List.cons_append, List.append_assoc, List.cons.injEq,
        true_and] at h
      obtain ⟨rfl, hop⟩ := ihf hf.1 hg.1 h
      obtain ⟨rfl, hright⟩ := BinaryConnective.symbol_append_inj hop
      obtain ⟨rfl, hrest⟩ := ihf' hf.2 hg.2 hright
      exact ⟨rfl, (List.cons.inj hrest).2⟩

/-- Different formulas have different labels. -/
lemma label_injective {f g : Formula} (hf : f.Legible) (hg : g.Legible)
    (h : f.label = g.label) : f = g :=
  (@label_append_inj f g [] [] hf hg (by rw [h])).1

/-! ## The length of a label -/

@[simp] lemma length_label_letter (c : Char) : (letter c).label.length = 1 := by
  simp [← String.length_toList]

@[simp] lemma length_label_not (f : Formula) :
    (not f).label.length = f.label.length + 1 := by
  simp [← String.length_toList]

lemma length_label_binary (op : BinaryConnective) (f g : Formula) :
    (binary op f g).label.length =
      f.label.length + op.symbol.length + g.label.length + 2 := by
  simp only [← String.length_toList, toList_label_binary, List.length_cons, List.length_append,
    List.length_nil]
  omega

lemma length_label_pos (f : Formula) : 0 < f.label.length := by
  cases f <;> simp [length_label_binary]

/-- A compound label has more than one character. -/
lemma one_lt_length_label {f : Formula} (h : f.isCompound = true) : 1 < f.label.length := by
  cases f with
  | letter c => simp [isCompound] at h
  | not f => simpa using f.length_label_pos
  | binary op f g =>
    rw [length_label_binary]
    omega

lemma length_label_le_of_mem_subformulas {u f : Formula} (h : u ∈ f.subformulas) :
    u.label.length ≤ f.label.length := by
  induction f with
  | letter c =>
    obtain rfl : u = .letter c := by simpa [subformulas] using h
    exact Nat.le_refl _
  | not f ih =>
    rcases List.mem_append.1 h with h | h
    · have hle := ih h
      rw [length_label_not]
      omega
    · obtain rfl : u = .not f := by simpa using h
      exact Nat.le_refl _
  | binary op f g ihf ihg =>
    rcases List.mem_append.1 h with h | h
    · have hle : u.label.length ≤ f.label.length ∨ u.label.length ≤ g.label.length :=
        (List.mem_append.1 h).imp ihf ihg
      rw [length_label_binary]
      omega
    · obtain rfl : u = .binary op f g := by simpa using h
      exact Nat.le_refl _

/-- A formula comes last among its subformulas, and the labels of the others are shorter. -/
lemma exists_subformulas_eq_concat (f : Formula) :
    ∃ us, f.subformulas = us ++ [f] ∧ ∀ u ∈ us, u.label.length < f.label.length := by
  cases f with
  | letter c => exact ⟨[], rfl, by simp⟩
  | not f =>
    refine ⟨f.subformulas, rfl, fun u hu => ?_⟩
    have hle := length_label_le_of_mem_subformulas hu
    rw [length_label_not]
    omega
  | binary op f g =>
    refine ⟨f.subformulas ++ g.subformulas, rfl, fun u hu => ?_⟩
    have hle : u.label.length ≤ f.label.length ∨ u.label.length ≤ g.label.length :=
      (List.mem_append.1 hu).imp length_label_le_of_mem_subformulas
        length_label_le_of_mem_subformulas
    rw [length_label_binary]
    omega

/-! ## The tokens of a label -/

/-- The label is the written form of its tokens. -/
lemma surface_tokens (f : Formula) : Token.surface f.tokens = f.label := by
  rw [← String.toList_inj]
  induction f with
  | letter c => simp [Token.surface, tokens, Token.text]
  | not f ih =>
    rw [toList_label_not, ← ih]
    simp [Token.surface, tokens, Token.text, Connective.symbol]
  | binary op f g ihf ihg =>
    rw [toList_label_binary, ← ihf, ← ihg]
    simp [Token.surface, tokens, Token.text, Connective.symbol]

@[simp] lemma filterMap_letter?_tokens (f : Formula) :
    f.tokens.filterMap Token.letter? = f.letters := by
  induction f with
  | letter c => rfl
  | not f ih => simp [tokens, letters, List.filterMap_cons, ih]
  | binary op f g ihf ihg => simp [tokens, letters, List.filterMap_cons, ihf, ihg]

/-- The tokens of a label are read as the formula that is labelled. -/
lemma reads_tokens (f : Formula) : Reads unitLevel f.tokens f := by
  induction f with
  | letter c => exact .letter c
  | not f ih => exact ih.not
  | binary op f g ihf ihg =>
    have hop : op.level < unitLevel := level_lt_unitLevel op
    have hbinary : Reads op.level (f.tokens ++ .connective (.binary op) :: g.tokens)
        (.binary op f g) :=
      (ihf.loosen (Nat.le_of_lt hop)).binary op (ihg.loosen hop)
    simpa [tokens] using (hbinary.loosen (Nat.zero_le _)).group

end Formula

end TruthTable
