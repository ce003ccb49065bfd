/-
# The one-pass check accepts the written formulas

The check of `TruthTable.Token.WellFormed` looks at neighbouring tokens and counts open
parentheses.  This file shows that it accepts exactly the sequences that the grammar
`Token.Derivable` derives.

Both sides are compared with a third one.  Between two tokens all that matters is whether
an operand has to come next, and how many groups are open; `Completes due depth ts` says
that `ts` leads from such a point to the end of a formula.

* The check computes `Completes` (`isWellFormed_iff_completes`).
* A derivable sequence leads from a point where an operand is due to the same depth
  with the operand read (`Derivable.completes_append`).
* In the other direction `Begins due depth ts` says of the tokens in front of such a
  point that, with any operand that is due and with the missing closing parentheses, they
  are derivable.  Every token that the check lets pass keeps this (`Begins.read`).
-/
import Mathlib.Data.List.Basic
import TruthTable.Formula.Grammar
import TruthTable.Token.WellFormed

namespace TruthTable.Token

/-! ## The check as a run over two-component points -/

/-- The tokens lead to the end of a formula from a point where `depth` groups are open and
where an operand has to come next (`due`) or has just been read. -/
def Completes (due : Bool) (depth : ℕ) : List Token → Prop
  | [] => due = false ∧ depth = 0
  | t :: ts =>
    t.kind.canStart = due ∧ (t = rightParen → depth ≠ 0) ∧
      Completes (!t.kind.canEnd) (depthAfter depth t) ts

/-- The table of neighbours only asks whether an operand is due after the first token. -/
lemma canPrecede_eq (k next : Kind) : k.canPrecede next = (next.canStart == !k.canEnd) := by
  cases k <;> cases next <;> rfl

/-- The scan lets a token pass if it closes an open group or none at all, and if its
neighbour may follow it. -/
lemma diagnoseFrom_cons_eq_none_iff {position depth : ℕ} {t : Token} {ts : List Token} :
    diagnoseFrom position depth (t :: ts) = none ↔
      (t = rightParen → depth ≠ 0) ∧ (∀ u ∈ ts.head?, t.kind.canPrecede u.kind = true) ∧
        diagnoseFrom (position + 1) (depthAfter depth t) ts = none := by
  rw [diagnoseFrom]
  by_cases hclose : t = rightParen ∧ depth = 0
  · rw [if_pos hclose]
    simp [hclose.1, hclose.2]
  · have hopen : t = rightParen → depth ≠ 0 := fun ht hd => hclose ⟨ht, hd⟩
    rw [if_neg hclose, and_iff_right hopen]
    cases ts with
    | nil => simp
    | cons u ts => cases hpair : t.kind.canPrecede u.kind <;> simp [hpair, Option.filter]

/-- The scan and the test of the last token, from a point where the next token fits. -/
lemma diagnoseFrom_eq_none_iff {due : Bool} {position depth : ℕ} {t : Token}
    {ts : List Token} (hdue : t.kind.canStart = due) :
    diagnoseFrom position depth (t :: ts) = none ∧
        (∀ last ∈ (t :: ts).getLast?, last.kind.canEnd = true) ↔
      Completes due depth (t :: ts) := by
  induction ts generalizing due position depth t with
  | nil =>
    rw [diagnoseFrom_cons_eq_none_iff, Completes]
    simp [Completes, diagnoseFrom, hdue]
    tauto
  | cons u ts ih =>
    rw [diagnoseFrom_cons_eq_none_iff, Completes, List.getLast?_cons_cons]
    -- the test of the pair is the condition on the second token that `Completes` states there
    have hpair : (∀ v ∈ (u :: ts).head?, t.kind.canPrecede v.kind = true) ↔
        u.kind.canStart = !t.kind.canEnd := by
      simp [canPrecede_eq]
    rw [hpair]
    constructor
    · rintro ⟨⟨hclose, hnext, hscan⟩, hlast⟩
      exact ⟨hdue, hclose, (ih hnext).1 ⟨hscan, hlast⟩⟩
    · rintro ⟨-, hclose, hrest⟩
      have hnext : u.kind.canStart = !t.kind.canEnd := hrest.1
      obtain ⟨hscan, hlast⟩ := (@ih _ (position + 1) _ _ hnext).2 hrest
      exact ⟨⟨hclose, hnext, hscan⟩, hlast⟩

/-- The check accepts what leads from the start to the end of a formula. -/
lemma isWellFormed_iff_completes (ts : List Token) :
    isWellFormed ts = true ↔ Completes true 0 ts := by
  rw [isWellFormed, Option.isNone_iff_eq_none, diagnose]
  cases ts with
  | nil => simp [Completes]
  | cons t ts =>
    obtain ⟨last, hlast⟩ : ∃ last, (t :: ts).getLast? = some last :=
      ⟨_, List.getLast?_cons⟩
    rw [hlast]
    cases hstart : t.kind.canStart with
    | false => simp [Completes, hstart]
    | true =>
      rw [← @diagnoseFrom_eq_none_iff _ 0 _ _ _ hstart, hlast]
      cases hend : last.kind.canEnd <;> simp [hstart, hend]

/-! ## Derivable sequences are accepted -/

/-- A derivable sequence is read as the operand that is due, at any depth. -/
lemma Derivable.completes_append {ts : List Token} (h : Derivable ts) (depth : ℕ)
    (rest : List Token) : Completes true depth (ts ++ rest) ↔ Completes false depth rest := by
  induction h generalizing depth rest with
  | letter c => simp [Completes, kind, Kind.canStart, Kind.canEnd, depthAfter]
  | group _ ih =>
    simp [Completes, kind, Kind.canStart, Kind.canEnd, depthAfter, ih]
  | not _ ih =>
    simp [Completes, kind, Kind.canStart, Kind.canEnd, depthAfter, ih]
  | binary op _ _ ihl ihr =>
    simp [Completes, kind, Kind.canStart, Kind.canEnd, depthAfter, ihl, ihr]

lemma Derivable.isWellFormed {ts : List Token} (h : Derivable ts) : isWellFormed ts = true := by
  rw [isWellFormed_iff_completes]
  have hend : Completes false 0 [] := ⟨rfl, rfl⟩
  simpa using (h.completes_append 0 []).2 hend

/-! ## Accepted sequences are derivable -/

/-- Closing parentheses for `depth` groups. -/
def closers (depth : ℕ) : List Token := List.replicate depth rightParen

/-- The tokens are the beginning of a formula: they leave `depth` groups open, and with any
operand, if one is due, and with the missing closing parentheses they are derivable. -/
def Begins (due : Bool) (depth : ℕ) (ts : List Token) : Prop :=
  match due with
  | true => ∀ us, Derivable us → Derivable (ts ++ us ++ closers depth)
  | false => Derivable (ts ++ closers depth)

lemma begins_nil : Begins true 0 [] := by
  intro us hus
  simpa [closers] using hus

/-- If closing parentheses end a sequence that starts with another token, that token stands
in front of them. -/
lemma eq_cons_of_append_closers {ts rest : List Token} {t : Token} {depth : ℕ}
    (ht : t ≠ rightParen) (h : ts ++ closers depth = t :: rest) :
    ∃ ts', ts = t :: ts' ∧ ts' ++ closers depth = rest := by
  cases ts with
  | nil =>
    have hmem : t ∈ closers depth := by
      rw [show closers depth = t :: rest from h]
      simp
    exact absurd (List.eq_of_mem_replicate hmem) ht
  | cons u ts' =>
    simp only [List.cons_append, List.cons.injEq] at h
    obtain ⟨rfl, hrest⟩ := h
    exact ⟨ts', rfl, hrest⟩

/-- A formula may be continued by an operator and another operand in front of the closing
parentheses of the groups that end with it. -/
lemma Derivable.binary_closers (op : BinaryConnective) {ts us : List Token} {depth : ℕ}
    (h : Derivable (ts ++ closers depth)) (hus : Derivable us) :
    Derivable (ts ++ .connective (.binary op) :: us ++ closers depth) := by
  cases depth with
  | zero =>
    have hts : Derivable ts := by simpa [closers] using h
    simpa [closers] using hts.binary op hus
  | succ depth =>
    -- the operator goes into the innermost of the groups, down the right spine of the formula
    generalize hws : ts ++ closers (depth + 1) = ws at h
    induction h generalizing ts depth with
    | letter c =>
      obtain ⟨ts', rfl, hnil⟩ := eq_cons_of_append_closers (by simp) hws
      simp [closers] at hnil
    | @group vs hvs ih =>
      obtain ⟨ts', rfl, hvs'⟩ := eq_cons_of_append_closers (by simp) hws
      have hinner : ts' ++ closers depth = vs := by
        rw [closers, List.replicate_succ', ← List.append_assoc] at hvs'
        exact List.append_cancel_right hvs'
      have hcont : Derivable (ts' ++ .connective (.binary op) :: us ++ closers depth) := by
        cases depth with
        | zero =>
          have hts' : ts' = vs := by simpa [closers] using hinner
          subst hts'
          simpa [closers] using hvs.binary op hus
        | succ depth => exact ih _ hinner
      simpa [closers, List.replicate_succ'] using hcont.group
    | not _ ih =>
      obtain ⟨ts', rfl, hvs'⟩ := eq_cons_of_append_closers (by simp) hws
      simpa using (ih _ hvs').not
    | @binary vs vs' op' hvs _ _ ih =>
      rcases List.append_eq_append_iff.1 hws with ⟨ws, rfl, hclosers⟩ | ⟨ws, rfl, hrest⟩
      · have hmem : Token.connective (.binary op') ∈ closers (depth + 1) := by
          rw [hclosers]
          simp
        exact absurd (List.eq_of_mem_replicate hmem) (by simp)
      · obtain ⟨ts', rfl, hvs'⟩ := eq_cons_of_append_closers (by simp) hrest.symm
        simpa using hvs.binary op' (ih _ hvs')

/-- Every token that the check lets pass keeps the beginning of a formula. -/
lemma Begins.read {due : Bool} {depth : ℕ} {ts : List Token} {t : Token}
    (h : Begins due depth ts) (hstart : t.kind.canStart = due)
    (hclose : t = rightParen → depth ≠ 0) :
    Begins (!t.kind.canEnd) (depthAfter depth t) (ts ++ [t]) := by
  subst hstart
  match t with
  | letter c =>
    have hletter := h _ (.letter c)
    simpa [Begins, kind, Kind.canEnd, depthAfter] using hletter
  | leftParen =>
    intro us hus
    have hgroup := h _ hus.group
    simpa [closers, depthAfter, List.replicate_succ] using hgroup
  | rightParen =>
    obtain ⟨depth, rfl⟩ := Nat.exists_eq_succ_of_ne_zero (hclose rfl)
    have hclosed : Derivable (ts ++ closers (depth + 1)) := h
    simpa [Begins, kind, Kind.canEnd, depthAfter, closers, List.replicate_succ] using hclosed
  | connective .not =>
    intro us hus
    have hnot := h _ hus.not
    simpa [depthAfter] using hnot
  | connective (.binary op) =>
    intro us hus
    have hbinary := Derivable.binary_closers op h hus
    simpa [depthAfter] using hbinary

/-- What leads from the beginning of a formula to its end makes it derivable. -/
lemma Begins.derivable_append {due : Bool} {depth : ℕ} {before ts : List Token}
    (h : Begins due depth before) (hts : Completes due depth ts) : Derivable (before ++ ts) := by
  induction ts generalizing due depth before with
  | nil =>
    obtain ⟨rfl, rfl⟩ := hts
    exact h
  | cons t ts ih =>
    obtain ⟨hstart, hclose, hrest⟩ := hts
    simpa using ih (h.read hstart hclose) hrest

lemma derivable_of_isWellFormed {ts : List Token} (h : isWellFormed ts = true) :
    Derivable ts := by
  rw [isWellFormed_iff_completes] at h
  simpa using begins_nil.derivable_append h

/-- **The one-pass check accepts exactly the derivable sequences.** -/
theorem isWellFormed_iff_derivable (ts : List Token) : isWellFormed ts = true ↔ Derivable ts :=
  ⟨derivable_of_isWellFormed, Derivable.isWellFormed⟩

end TruthTable.Token
