/-
# Substitution before and after the conversion

Sequences in parentheses are put in the place of the letters of a sequence.  Converted to
postorder, the result is the converted sequence with the converted sequences in the place
of its letters, and no parentheses are needed there (`Postorder.ofTokens_substitute`).

This needs neither a formula nor a reading.  A group is converted as it would be on its own, on
top of whatever has been placed and whatever waits (`Postorder.places_group`).  Where the conversion
of the original sequence reads a letter, the other one reads something that has the same effect as
far as all later tokens are concerned (`Postorder.foldlM_read_replaceLetters`).

If formulas are put into a formula, the result is the sequence of a formula, and its values
are values of the original one.  So a tautology remains a tautology, and a contradiction
remains a contradiction.
-/
import Mathlib.Data.List.Basic
import TruthTable.Proofs.Verdict

namespace TruthTable

namespace Token

/-- Puts sequences in the place of letters. -/
def replaceLetters (g : Char → List Token) (ts : List Token) : List Token :=
  ts.flatMap fun
    | .letter c => g c
    | t => [t]

/-- Puts sequences in parentheses in the place of letters. -/
def substitute (g : Char → List Token) : List Token → List Token :=
  replaceLetters fun c => .leftParen :: (g c ++ [.rightParen])

section

variable (g : Char → List Token)

@[simp] lemma replaceLetters_nil : replaceLetters g [] = [] := rfl

@[simp] lemma replaceLetters_cons_letter (c : Char) (ts : List Token) :
    replaceLetters g (.letter c :: ts) = g c ++ replaceLetters g ts := by
  simp [replaceLetters]

@[simp] lemma replaceLetters_cons_connective (op : Connective) (ts : List Token) :
    replaceLetters g (.connective op :: ts) = .connective op :: replaceLetters g ts := by
  simp [replaceLetters]

@[simp] lemma replaceLetters_cons_leftParen (ts : List Token) :
    replaceLetters g (.leftParen :: ts) = .leftParen :: replaceLetters g ts := by
  simp [replaceLetters]

@[simp] lemma replaceLetters_cons_rightParen (ts : List Token) :
    replaceLetters g (.rightParen :: ts) = .rightParen :: replaceLetters g ts := by
  simp [replaceLetters]

@[simp] lemma replaceLetters_append (ts us : List Token) :
    replaceLetters g (ts ++ us) = replaceLetters g ts ++ replaceLetters g us := by
  simp [replaceLetters]

@[simp] lemma replaceLetters_map_connective (ops : List Connective) :
    replaceLetters g (ops.map .connective) = ops.map .connective := by
  induction ops with
  | nil => rfl
  | cons op ops ih => simp [ih]

end

end Token

namespace Postorder

open Token (replaceLetters substitute)

/-! ## Groups -/

lemma place_append (ops : List Connective) (placed placed' : List Token) :
    place ops (placed ++ placed') = place ops placed ++ placed' := by
  simp [place]

/-- The state of a run that began where more tokens had been placed and more groups were
open. -/
def State.onTop (s : State) (placed : List Token) (enclosing : List (List Connective)) : State :=
  { s with placed := s.placed ++ placed, enclosing := s.enclosing ++ enclosing }

/-- What was there before a run has no influence on it and is left alone. -/
lemma read_onTop {s s' : State} {t : Token} (h : s.read t = some s') (placed : List Token)
    (enclosing : List (List Connective)) :
    (s.onTop placed enclosing).read t = some (s'.onTop placed enclosing) := by
  match t with
  | .letter c | .leftParen =>
    obtain rfl := Option.some.inj h
    rfl
  | .connective op =>
    obtain rfl := Option.some.inj h
    refine congrArg some ?_
    simp only [State.operator, State.onTop]
    split
    · rfl
    · simp [place_append]
  | .rightParen =>
    obtain ⟨before, waiting, groups⟩ := s
    cases groups with
    | nil => simp [State.read] at h
    | cons outer groups =>
      obtain rfl := Option.some.inj h
      simp [State.read, State.onTop, place_append]

lemma foldlM_read_onTop {s s' : State} {ts : List Token} (h : ts.foldlM State.read s = some s')
    (placed : List Token) (enclosing : List (List Connective)) :
    ts.foldlM State.read (s.onTop placed enclosing) = some (s'.onTop placed enclosing) := by
  induction ts generalizing s with
  | nil =>
    obtain rfl : s = s' := by simpa using h
    rfl
  | cons t ts ih =>
    obtain ⟨s₁, hread, hrun⟩ := foldlM_read_cons_eq_some_iff.1 h
    rw [List.foldlM_cons, read_onTop hread]
    exact ih hrun

/-- Reading the tokens `us` places the tokens `qs` and changes nothing else. -/
def Places (us qs : List Token) : Prop :=
  ∀ s : State, us.foldlM State.read s = some { s with placed := qs.reverse ++ s.placed }

lemma places_letter (c : Char) : Places [.letter c] [.letter c] := fun _ => rfl

/-- A group places the converted sequence. -/
lemma places_group {us qs : List Token} (h : ofTokens us = .ok qs) :
    Places (.leftParen :: (us ++ [.rightParen])) qs := by
  intro s
  obtain ⟨s', hrun, hclosed, rfl⟩ := ofTokens_eq_ok_iff.1 h
  have hinner : us.foldlM State.read ⟨s.placed, [], s.waiting :: s.enclosing⟩ =
      some (s'.onTop s.placed (s.waiting :: s.enclosing)) :=
    foldlM_read_onTop hrun s.placed (s.waiting :: s.enclosing)
  have hclose : (s'.onTop s.placed (s.waiting :: s.enclosing)).read .rightParen =
      some { s with placed := place s'.waiting s'.placed ++ s.placed } := by
    simp [State.onTop, hclosed, State.read, place_append]
  rw [List.foldlM_cons, State.read, Option.bind_eq_bind, Option.bind_some, List.foldlM_append,
    hinner, Option.bind_eq_bind, Option.bind_some, List.foldlM_cons, hclose]
  simp

/-! ## The conversion after a substitution -/

/-- The state with sequences in the place of the letters that were placed. -/
def State.replace (q : Char → List Token) (s : State) : State :=
  { s with placed := (replaceLetters q s.placed.reverse).reverse }

lemma replaceLetters_place (q : Char → List Token) (ops : List Connective)
    (placed : List Token) :
    (replaceLetters q (place ops placed).reverse).reverse =
      place ops (replaceLetters q placed.reverse).reverse := by
  simp [place]

section

variable {g q : Char → List Token} {s s' : State} {ts ps : List Token}

/-- Where the conversion reads a letter, the conversion after the replacement places what is there
instead, and all other tokens are the same for both. -/
lemma foldlM_read_replaceLetters_singleton {t : Token} (h : s.read t = some s')
    (hg : ∀ c, t = .letter c → Places (g c) (q c)) :
    (replaceLetters g [t]).foldlM State.read (s.replace q) = some (s'.replace q) := by
  match t with
  | .letter c =>
    obtain rfl := Option.some.inj h
    have hplaces := hg c rfl (s.replace q)
    simpa [State.replace] using hplaces
  | .connective op =>
    obtain rfl := Option.some.inj h
    have hop : (s.operator op).replace q = (s.replace q).operator op := by
      simp only [State.operator, State.replace]
      split
      · rfl
      · simp [replaceLetters_place]
    simp [State.read, hop]
  | .leftParen =>
    obtain rfl := Option.some.inj h
    rfl
  | .rightParen =>
    obtain ⟨placed, waiting, enclosing⟩ := s
    cases enclosing with
    | nil => simp [State.read] at h
    | cons outer enclosing =>
      obtain rfl := Option.some.inj h
      simp [State.read, State.replace, replaceLetters_place]

lemma foldlM_read_replaceLetters (h : ts.foldlM State.read s = some s')
    (hg : ∀ c, .letter c ∈ ts → Places (g c) (q c)) :
    (replaceLetters g ts).foldlM State.read (s.replace q) = some (s'.replace q) := by
  induction ts generalizing s with
  | nil =>
    obtain rfl : s = s' := by simpa using h
    rfl
  | cons t ts ih =>
    obtain ⟨s₁, hread, hrun⟩ := foldlM_read_cons_eq_some_iff.1 h
    have hcons : replaceLetters g (t :: ts) = replaceLetters g [t] ++ replaceLetters g ts :=
      Token.replaceLetters_append g [t] ts
    have hfirst := foldlM_read_replaceLetters_singleton (g := g) (q := q) hread
      fun c hc => hg c (by simp [hc])
    rw [hcons, List.foldlM_append, hfirst]
    exact ih hrun fun c hc => hg c (List.mem_cons_of_mem t hc)

/-- A replacement in the sequence is one in the converted sequence. -/
lemma ofTokens_replaceLetters (hts : ofTokens ts = .ok ps)
    (hg : ∀ c, .letter c ∈ ts → Places (g c) (q c)) :
    ofTokens (replaceLetters g ts) = .ok (replaceLetters q ps) := by
  obtain ⟨s, hrun, hclosed, rfl⟩ := ofTokens_eq_ok_iff.1 hts
  refine ofTokens_eq_ok_iff.2 ⟨s.replace q, foldlM_read_replaceLetters hrun hg, hclosed, ?_⟩
  simp [State.replace, place]

lemma ofTokens_substitute (hts : ofTokens ts = .ok ps)
    (hg : ∀ c, .letter c ∈ ts → ofTokens (g c) = .ok (q c)) :
    ofTokens (substitute g ts) = .ok (replaceLetters q ps) :=
  ofTokens_replaceLetters hts fun c hc => places_group (hg c hc)

end

end Postorder

/-! ## Formulas in the place of letters -/

/-- In a formula every letter may be replaced by a formula in parentheses. -/
lemma Token.Derivable.substitute {ts : List Token} {g : Char → List Token} (h : Derivable ts)
    (hg : ∀ c, .letter c ∈ ts → Derivable (g c)) : Derivable (substitute g ts) := by
  induction h with
  | letter c =>
    have hgroup := (hg c (by simp)).group
    simpa [Token.substitute] using hgroup
  | group _ ih =>
    have hgroup := (ih fun c hc => hg c (by simp [hc])).group
    simpa [Token.substitute] using hgroup
  | not _ ih =>
    have hnot := (ih fun c hc => hg c (by simp [hc])).not
    simpa [Token.substitute] using hnot
  | binary op _ _ ihl ihr =>
    have hbinary := (ihl fun c hc => hg c (by simp [hc])).binary op
      (ihr fun c hc => hg c (by simp [hc]))
    simpa [Token.substitute] using hbinary

lemma Formula.postorder_subst (s : Char → Formula) (f : Formula) :
    (f.subst s).postorder = Token.replaceLetters (fun c => (s c).postorder) f.postorder := by
  induction f with
  | letter c => simp [subst, postorder]
  | not f ih => simp [subst, postorder, ih]
  | binary op f g ihf ihg => simp [subst, postorder, ihf, ihg]

/-- A substitution brings in the tokens that are put in, and parentheses. -/
lemma Token.isStandard_of_mem_substitute {ts : List Token} {g : Char → List Token}
    (hts : ∀ t ∈ ts, t.IsStandard) (hg : ∀ c, .letter c ∈ ts → ∀ t ∈ g c, t.IsStandard) :
    ∀ t ∈ substitute g ts, t.IsStandard := by
  intro t ht
  obtain ⟨u, hu, ht⟩ := List.mem_flatMap.1 ht
  match u with
  | .letter c =>
    have hmem : t = .leftParen ∨ t ∈ g c ∨ t = .rightParen := by simpa using ht
    rcases hmem with rfl | hmem | rfl
    · trivial
    · exact hg c hu t hmem
    · trivial
  | .connective _ | .leftParen | .rightParen =>
    rw [List.mem_singleton.1 ht]
    exact hts _ hu

namespace Table

open Formula
open Token (substitute replaceLetters)

/-- The table after a substitution is that of the formula after the substitution. -/
lemma ofTokens_substitute_of_reads {ts : List Token} {g : Char → List Token} {f : Formula}
    {s : Char → Formula} (hf : Reads 0 ts f) (hs : ∀ c, .letter c ∈ ts → Reads 0 (g c) (s c))
    (hts : ∀ t ∈ substitute g ts, t.IsStandard) :
    ofTokens (substitute g ts) = .ok (f.subst s).table := by
  have hps : Postorder.ofTokens (substitute g ts) = .ok (f.subst s).postorder := by
    rw [postorder_subst]
    exact Postorder.ofTokens_substitute (Postorder.ofTokens_of_reads hf)
      fun c hc => Postorder.ofTokens_of_reads (hs c hc)
  exact ofTokens_eq_table hps (isStandard_of_ofTokens hts hps).legible

/-- **Substitution commutes with the conversion**, for all sequences that can be converted.  In
formulas it leads to a formula again, and what the table says of all values is kept. -/
theorem substitution_commutes {ts ps : List Token} {g q : Char → List Token}
    (hts : Postorder.ofTokens ts = .ok ps)
    (hg : ∀ c, .letter c ∈ ts → Postorder.ofTokens (g c) = .ok (q c)) :
    Postorder.ofTokens (substitute g ts) = .ok (replaceLetters q ps) ∧
      (Token.isWellFormed ts = true → (∀ t ∈ ts, t.IsStandard) →
        (∀ c, .letter c ∈ ts → Token.isWellFormed (g c) = true ∧ ∀ t ∈ g c, t.IsStandard) →
        Token.isWellFormed (substitute g ts) = true ∧
          ∃ t t', ofTokens ts = .ok t ∧ ofTokens (substitute g ts) = .ok t' ∧
            (t.verdict = .tautology → t'.verdict = .tautology) ∧
            (t.verdict = .contradiction → t'.verdict = .contradiction)) := by
  refine ⟨Postorder.ofTokens_substitute hts hg, fun hwf hstandard hwf' => ?_⟩
  have hderivable : Token.Derivable ts := Token.derivable_of_isWellFormed hwf
  have hderivable' : ∀ c, .letter c ∈ ts → Token.Derivable (g c) :=
    fun c hc => Token.derivable_of_isWellFormed (hwf' c hc).1
  obtain ⟨f, hf⟩ := exists_reads_of_derivable hderivable
  have hread : ∀ c, ∃ k, .letter c ∈ ts → Reads 0 (g c) k := by
    intro c
    by_cases hc : .letter c ∈ ts
    · obtain ⟨k, hk⟩ := exists_reads_of_derivable (hderivable' c hc)
      exact ⟨k, fun _ => hk⟩
    · exact ⟨.letter c, fun hc' => absurd hc' hc⟩
  choose s hs using hread
  have hstandard' := Token.isStandard_of_mem_substitute hstandard fun c hc => (hwf' c hc).2
  refine ⟨(hderivable.substitute hderivable').isWellFormed, f.table, (f.subst s).table,
    ofTokens_of_reads hstandard hf, ofTokens_substitute_of_reads hf hs hstandard', ?_, ?_⟩
  · rw [verdict_table_eq_tautology_iff, verdict_table_eq_tautology_iff]
    intro h v
    rw [eval_subst, h]
  · rw [verdict_table_eq_contradiction_iff, verdict_table_eq_contradiction_iff]
    intro h v
    rw [eval_subst, h]

/-- With `B->C` in the place of `A`, the tautology `A|~A` is the tautology `(B->C)|~(B->C)`. -/
theorem substitution_commutes_excluded_middle :
    let ts : List Token := [.letter 'A', .connective (.binary .or), .connective .not, .letter 'A']
    let us : List Token := [.letter 'B', .connective (.binary .implies), .letter 'C']
    Postorder.ofTokens (substitute (fun _ => us) ts) =
        .ok (replaceLetters (fun _ => [.letter 'B', .letter 'C', .connective (.binary .implies)])
          [.letter 'A', .letter 'A', .connective .not, .connective (.binary .or)]) ∧
      ∃ t, ofTokens (substitute (fun _ => us) ts) = .ok t ∧ t.verdict = .tautology := by
  intro ts us
  have hts : Postorder.ofTokens ts =
      .ok [.letter 'A', .letter 'A', .connective .not, .connective (.binary .or)] := by decide
  have hus : Postorder.ofTokens us =
      .ok [.letter 'B', .letter 'C', .connective (.binary .implies)] := by decide
  obtain ⟨hps, htables⟩ := substitution_commutes (g := fun _ => us) hts fun _ _ => hus
  have hstandard : ∀ t ∈ ts, t.IsStandard := by decide
  have hus' : Token.isWellFormed us = true ∧ ∀ t ∈ us, t.IsStandard := by decide
  obtain ⟨-, t, t', ht, ht', htautology, -⟩ := htables (by decide) hstandard fun _ _ => hus'
  refine ⟨hps, t', ht', htautology ?_⟩
  have hread : Reads 0 ts (.binary .or (.letter 'A') (.not (.letter 'A'))) := by
    have hnot : Reads 4 [.connective .not, .letter 'A'] (.not (.letter 'A')) :=
      (Reads.letter 'A').not.loosen (by decide)
    exact (((Reads.letter 'A').loosen (by decide)).binary .or hnot).loosen (by decide)
  have htable : t = Formula.table _ :=
    Except.ok.inj (ht.symm.trans (ofTokens_of_reads hstandard hread))
  rw [htable, verdict_table_eq_tautology_iff]
  intro v
  cases hA : v 'A' <;> simp [eval, BinaryConnective.apply, hA]

end Table

end TruthTable
