/-
# The conversion to postorder follows the reading

The conversion of `TruthTable.Postorder` keeps waiting operators and never looks at a
formula.  This file relates it to the reading of the sequence: if a sequence is read as
`f` on level `n` or a higher one, then its conversion, begun in any state, places the
tokens of `f` in postorder, except that some connectives of the strength `n` or a greater
one still wait on top of those that waited before (`foldlM_read_of_reads`).

Nothing that waited before is touched, provided that it binds more loosely than every
binary connective of strength `n`.  This is `Settled n`, the invariant that the levels of
the reading maintain: to the right of a connective only tighter ones follow.  The levels
are those of the grammar, and the program's strengths are the same numbers
(`level_eq_precedence`).
-/
import Mathlib.Data.List.Basic
import TruthTable.Postorder
import TruthTable.Proofs.Postorder
import TruthTable.Proofs.Reading
import TruthTable.Proofs.WellFormed

namespace TruthTable.Postorder

open Formula (Reads Operand)

/-- The program's strengths order the binary connectives as the grammar does. -/
lemma level_eq_precedence (op : BinaryConnective) : op.level = op.precedence := by
  cases op <;> rfl

/-! ## Placing operators -/

@[simp] lemma place_nil (placed : List Token) : place [] placed = placed := rfl

lemma place_concat (ops : List Connective) (op : Connective) (placed : List Token) :
    place (ops ++ [op]) placed = .connective op :: place ops placed := by
  simp [place]

/-- No binary connective of the strength `n` or a greater one releases a waiting operator. -/
def Settled (n : ℕ) (waiting : List Connective) : Prop :=
  ∀ op : BinaryConnective, n ≤ op.precedence →
    ∀ top ∈ waiting.head?, top.precedence < op.precedence

lemma settled_nil (n : ℕ) : Settled n [] := by
  intro op _ top htop
  simp at htop

/-- Only binary connectives release operators, and all of them bind more loosely than
negation. -/
lemma settled_not (waiting : List Connective) : Settled Connective.not.precedence waiting := by
  intro op hop
  exact absurd (Connective.precedence_binary_lt_not op) (Nat.not_lt.2 hop)

lemma settled_binary (op : BinaryConnective) (waiting : List Connective) :
    Settled (op.precedence + 1) (.binary op :: waiting) := by
  intro op' hop' top htop
  obtain rfl : Connective.binary op = top := by simpa using htop
  exact hop'

lemma Settled.mono {m n : ℕ} {waiting : List Connective} (h : Settled m waiting) (hmn : m ≤ n) :
    Settled n waiting :=
  fun op hop => h op (Nat.le_trans hmn hop)

/-- A binary connective releases the operators that bind at least as tightly and leaves the
settled ones. -/
lemma operator_binary_append (op : BinaryConnective) (placed : List Token)
    {ops waiting : List Connective} (enclosing : List (List Connective))
    (hops : ∀ top ∈ ops, op.precedence ≤ top.precedence) (hw : Settled op.precedence waiting) :
    State.operator ⟨placed, ops ++ waiting, enclosing⟩ (.binary op) =
      ⟨place ops placed, .binary op :: waiting, enclosing⟩ := by
  have hpos : ∀ top ∈ ops, decide ((Connective.binary op).precedence ≤ top.precedence) = true :=
    fun top htop => decide_eq_true (hops top htop)
  simp only [State.operator, Connective.isUnary_binary, Bool.false_eq_true, if_false]
  rw [List.takeWhile_append_of_pos hpos, List.dropWhile_append_of_pos hpos]
  cases waiting with
  | nil => simp
  | cons top rest =>
    have hneg : decide ((Connective.binary op).precedence ≤ top.precedence) = false :=
      decide_eq_false (Nat.not_le.2 (hw op (Nat.le_refl _) top rfl))
    simp [hneg]

/-! ## The run over a sequence that is read -/

/-- A run reads one token first. -/
lemma foldlM_read_cons_eq_some_iff {s s' : State} {t : Token} {ts : List Token} :
    (t :: ts).foldlM State.read s = some s' ↔
      ∃ s₁, s.read t = some s₁ ∧ ts.foldlM State.read s₁ = some s' := by
  rw [List.foldlM_cons]
  exact Option.bind_eq_some_iff

/-- A sequence is converted if the run over it leaves no group open. -/
lemma ofTokens_eq_ok_iff {ts ps : List Token} :
    ofTokens ts = .ok ps ↔ ∃ s : State, ts.foldlM State.read {} = some s ∧ s.enclosing = [] ∧
      (place s.waiting s.placed).reverse = ps := by
  have hfinish : ∀ s : State, s.finish = some ps ↔
      s.enclosing = [] ∧ (place s.waiting s.placed).reverse = ps := by
    intro s
    simp [State.finish]
  have hsome : ofTokens ts = .ok ps ↔ ofTokens? ts = some ps := by
    rw [ofTokens]
    cases ofTokens? ts <;> simp
  rw [hsome, ofTokens?, Option.bind_eq_some_iff]
  exact exists_congr fun s => and_congr_right fun _ => hfinish s

/-- **The conversion of a sequence places its formula in postorder**, up to the tight
connectives that wait at the end. -/
lemma foldlM_read_of_reads {n : ℕ} {ts : List Token} {f : Formula} (h : Reads n ts f)
    (placed : List Token) (waiting : List Connective) (enclosing : List (List Connective))
    (hw : Settled n waiting) :
    ∃ (placed' : List Token) (ops : List Connective),
      ts.foldlM State.read ⟨placed, waiting, enclosing⟩ =
          some ⟨placed', ops ++ waiting, enclosing⟩ ∧
        place ops placed' = f.postorder.reverse ++ placed ∧
        ∀ op ∈ ops, n ≤ op.precedence := by
  induction h generalizing placed waiting enclosing with
  | letter c => exact ⟨.letter c :: placed, [], rfl, rfl, by simp⟩
  | @group ts f _ ih =>
    -- nothing waits at the opening parenthesis, and the closing one releases what waits then
    obtain ⟨placed', ops, hrun, hplace, -⟩ := ih placed [] (waiting :: enclosing) (settled_nil 0)
    refine ⟨place ops placed', [], ?_, hplace, by simp⟩
    simp only [List.foldlM_cons, List.foldlM_append, State.read, Option.bind_eq_bind,
      Option.bind_some, hrun]
    simp
  | @not ts f _ ih =>
    obtain ⟨placed', ops, hrun, hplace, hops⟩ :=
      ih placed (.not :: waiting) enclosing (settled_not _)
    refine ⟨placed', ops ++ [.not], ?_, ?_, ?_⟩
    · simpa [State.read, State.operator] using hrun
    · rw [place_concat, hplace]
      simp [Formula.postorder]
    · intro op hop
      rcases List.mem_append.1 hop with hop | hop
      · exact hops op hop
      · obtain rfl : op = .not := by simpa using hop
        exact Nat.le_refl _
  | @binary ts us f g op _ _ ihf ihg =>
    -- the connective releases what the left operand left waiting, and waits below the right one
    rw [level_eq_precedence] at hw ihf ihg ⊢
    obtain ⟨placed₁, ops₁, hrun₁, hplace₁, hops₁⟩ := ihf placed waiting enclosing hw
    obtain ⟨placed₂, ops₂, hrun₂, hplace₂, hops₂⟩ :=
      ihg (place ops₁ placed₁) (.binary op :: waiting) enclosing (settled_binary op waiting)
    refine ⟨placed₂, ops₂ ++ [.binary op], ?_, ?_, ?_⟩
    · have hread : State.read ⟨placed₁, ops₁ ++ waiting, enclosing⟩
          (.connective (.binary op)) =
            some ⟨place ops₁ placed₁, .binary op :: waiting, enclosing⟩ :=
        congrArg some (operator_binary_append op placed₁ enclosing hops₁ hw)
      simp [hrun₁, hread, hrun₂]
    · rw [place_concat, hplace₂, hplace₁]
      simp [Formula.postorder]
    · intro op' hop'
      rcases List.mem_append.1 hop' with hop' | hop'
      · exact Nat.le_of_succ_le (hops₂ op' hop')
      · obtain rfl : op' = .binary op := by simpa using hop'
        exact Nat.le_refl _
  | @tighter n ts f _ _ ih =>
    obtain ⟨placed', ops, hrun, hplace, hops⟩ :=
      ih placed waiting enclosing (hw.mono (Nat.le_succ n))
    exact ⟨placed', ops, hrun, hplace, fun op hop => Nat.le_of_succ_le (hops op hop)⟩

lemma ofTokens_of_reads {ts : List Token} {f : Formula} (h : Reads 0 ts f) :
    ofTokens ts = .ok f.postorder := by
  obtain ⟨placed, ops, hrun, hplace, -⟩ := foldlM_read_of_reads h [] [] [] (settled_nil 0)
  exact ofTokens_eq_ok_iff.2 ⟨_, hrun, rfl, by simp [hplace]⟩

/-- A sequence has at most one reading. -/
lemma reads_unique {ts : List Token} {f g : Formula} (hf : Reads 0 ts f) (hg : Reads 0 ts g) :
    f = g := by
  have h := (ofTokens_of_reads hf).symm.trans (ofTokens_of_reads hg)
  exact Formula.postorder_injective (Except.ok.inj h)

/-- A well-formed sequence is read as the formula that it is converted to. -/
lemma reads_iff_eq {ts : List Token} {f g : Formula} (hts : Token.isWellFormed ts = true)
    (hps : ofTokens ts = .ok f.postorder) : Reads 0 ts g ↔ g = f := by
  obtain ⟨h, hh⟩ := Formula.exists_reads_of_derivable (Token.derivable_of_isWellFormed hts)
  obtain rfl : f = h :=
    Formula.postorder_injective (Except.ok.inj (hps.symm.trans (ofTokens_of_reads hh)))
  constructor
  · exact fun hg => reads_unique hg hh
  · rintro rfl
    exact hh

/-- **The conversion realises precedence and left associativity.**  A well-formed sequence
has exactly one reading, and its conversion is the postorder of the formula that is read.
So parentheses around a part that is read as one subformula make no difference, whether
they are added or left out. -/
theorem conversion_follows_reading {ts : List Token} (h : Token.isWellFormed ts = true) :
    (∃ f, (∀ g, Reads 0 ts g ↔ g = f) ∧ ofTokens ts = .ok f.postorder) ∧
      ∀ us before after, Operand us 0 before after →
        (ts = before ++ us ++ after →
          ofTokens (before ++ (.leftParen :: (us ++ [.rightParen])) ++ after) = ofTokens ts) ∧
        (ts = before ++ (.leftParen :: (us ++ [.rightParen])) ++ after →
          ofTokens (before ++ us ++ after) = ofTokens ts) := by
  constructor
  · obtain ⟨f, hf⟩ := Formula.exists_reads_of_derivable (Token.derivable_of_isWellFormed h)
    refine ⟨f, fun g => ⟨fun hg => reads_unique hg hf, ?_⟩, ofTokens_of_reads hf⟩
    rintro rfl
    exact hf
  · intro us before after hus
    obtain ⟨f, hf, hf'⟩ := hus.exists_reads
    constructor
    · rintro rfl
      rw [ofTokens_of_reads hf, ofTokens_of_reads hf']
    · rintro rfl
      rw [ofTokens_of_reads hf, ofTokens_of_reads hf']

/-- `A|B&C` has one reading, and `A|(B&C)` is converted alike. -/
theorem conversion_follows_reading_or_and :
    let ts : List Token := [.letter 'A', .connective (.binary .or), .letter 'B',
      .connective (.binary .and), .letter 'C']
    Token.isWellFormed ts = true ∧
      (∃ f, (∀ g, Reads 0 ts g ↔ g = f) ∧ ofTokens ts = .ok f.postorder) ∧
      ofTokens [.letter 'A', .connective (.binary .or), .leftParen, .letter 'B',
        .connective (.binary .and), .letter 'C', .rightParen] = ofTokens ts := by
  intro ts
  have hts : Token.isWellFormed ts = true := by decide
  have hA : Reads 3 [.letter 'A'] (.letter 'A') := (Reads.letter 'A').loosen (by decide)
  have hB : Reads 4 [.letter 'B'] (.letter 'B') := (Reads.letter 'B').loosen (by decide)
  have hBC : Reads 4 [.letter 'B', .connective (.binary .and), .letter 'C'] _ :=
    hB.binary .and (.letter 'C')
  have hus : Operand [.letter 'B', .connective (.binary .and), .letter 'C'] 0
      [.letter 'A', .connective (.binary .or)] [] :=
    .tighter (by decide) (.tighter (by decide) (.tighter (by decide)
      (.right .or hA (.whole hBC))))
  obtain ⟨hread, hgroup⟩ := conversion_follows_reading hts
  exact ⟨hts, hread, (hgroup _ _ _ hus).1 rfl⟩

/-! ## The letters of the converted sequence -/

lemma filterMap_letter?_place (ops : List Connective) (placed : List Token) :
    (place ops placed).filterMap Token.letter? = placed.filterMap Token.letter? := by
  have hops : (ops.map Token.connective).reverse.filterMap Token.letter? = [] := by
    rw [List.filterMap_eq_nil_iff]
    intro t ht
    obtain ⟨op, -, rfl⟩ := List.mem_map.1 (List.mem_reverse.1 ht)
    rfl
  rw [place, List.filterMap_append, hops, List.nil_append]

/-- A letter is placed when it is read, and no other token places one. -/
lemma filterMap_letter?_read {s s' : State} {t : Token} (h : s.read t = some s') :
    s'.placed.filterMap Token.letter? =
      [t].filterMap Token.letter? ++ s.placed.filterMap Token.letter? := by
  match t with
  | .letter c =>
    obtain rfl := Option.some.inj h
    rfl
  | .connective op =>
    obtain rfl := Option.some.inj h
    rw [State.operator]
    split
    · rfl
    · exact filterMap_letter?_place _ _
  | .leftParen =>
    obtain rfl := Option.some.inj h
    rfl
  | .rightParen =>
    rw [State.read] at h
    split at h
    · simp at h
    · obtain rfl := Option.some.inj h
      exact filterMap_letter?_place _ _

lemma filterMap_letter?_foldlM_read {s s' : State} {ts : List Token}
    (h : ts.foldlM State.read s = some s') :
    s'.placed.filterMap Token.letter? =
      (ts.filterMap Token.letter?).reverse ++ s.placed.filterMap Token.letter? := by
  induction ts generalizing s with
  | nil =>
    obtain rfl : s = s' := by simpa using h
    rfl
  | cons t ts ih =>
    obtain ⟨s₁, hread, hrun⟩ := foldlM_read_cons_eq_some_iff.1 h
    rw [ih hrun, filterMap_letter?_read hread]
    cases t <;> simp [List.filterMap_cons]

/-- The conversion keeps the letters in their order, whether or not the sequence is
well-formed. -/
lemma filterMap_letter?_ofTokens {ts ps : List Token} (h : ofTokens ts = .ok ps) :
    ps.filterMap Token.letter? = ts.filterMap Token.letter? := by
  obtain ⟨s, hrun, -, rfl⟩ := ofTokens_eq_ok_iff.1 h
  rw [List.filterMap_reverse, filterMap_letter?_place, filterMap_letter?_foldlM_read hrun]
  simp

end TruthTable.Postorder
