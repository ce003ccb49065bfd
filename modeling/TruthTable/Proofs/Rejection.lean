/-
# Rejected sequences

The check looks at both ends of a sequence, reads it once from the left, and stops at the first
token that does not fit.  This file shows that no token before could have been blamed: what has
been read is the beginning of an accepted sequence, and with the token at which the check stops it
is not.

* `Leads due depth us due' depth'` says that the tokens `us` lead from one point between two
  tokens to another, in the sense of `Completes`.
* At every point that can be reached from the start a formula can still be completed: by an
  operand, if one is due, and by the missing closing parentheses (`Leads.viable`).
* `Stops` says where the scan gives up, and every rejection by the scan is of this kind
  (`exists_stops_of_diagnoseFrom`).  A token at which it gives up fits in no continuation
  (`Stops.not_completes`).

A sequence that is rejected at its end lacks closing parentheses and nothing else, and the journal
is silent about it.  `Journal.PointsOut` collects what the entries say about the error.
-/
import Mathlib.Data.List.Basic
import TruthTable.Journal
import TruthTable.Proofs.Report

namespace TruthTable

namespace Token

/-! ## From one point to another -/

/-- The tokens lead from a point where `depth` groups are open, and where an operand is due or not,
to another such point. -/
inductive Leads : Bool → ℕ → List Token → Bool → ℕ → Prop
  | nil (due : Bool) (depth : ℕ) : Leads due depth [] due depth
  | cons {due due' : Bool} {depth depth' : ℕ} {t : Token} {us : List Token}
      (hstart : t.kind.canStart = due) (hclose : t = rightParen → depth ≠ 0)
      (hrest : Leads (!t.kind.canEnd) (depthAfter depth t) us due' depth') :
      Leads due depth (t :: us) due' depth'

section

variable {due due' : Bool} {depth depth' : ℕ} {us : List Token}

/-- Whether the rest completes a formula depends on the point that has been reached. -/
lemma Leads.completes_append (h : Leads due depth us due' depth') (rest : List Token) :
    Completes due depth (us ++ rest) ↔ Completes due' depth' rest := by
  induction h with
  | nil => rfl
  | cons hstart hclose _ ih =>
    rw [List.cons_append, Completes, ih, and_iff_right hstart, and_iff_right hclose]

/-- After the last token an operand is due, unless a formula may end with this token. -/
lemma Leads.due_of_getLast? (h : Leads due depth us due' depth') {t : Token}
    (ht : us.getLast? = some t) : due' = !t.kind.canEnd := by
  induction h with
  | nil => simp at ht
  | @cons _ _ _ _ u us _ _ hrest ih =>
    cases us with
    | nil =>
      obtain rfl : u = t := by simpa using ht
      cases hrest
      rfl
    | cons v us => exact ih (by rwa [List.getLast?_cons_cons] at ht)

/-- The open groups are counted by the parentheses. -/
lemma Leads.count_parens (h : Leads due depth us due' depth') :
    depth + us.count leftParen = depth' + us.count rightParen := by
  induction h with
  | nil => rfl
  | @cons _ _ depth _ t us _ hclose _ ih =>
    match t with
    | letter _ | connective _ => simpa [depthAfter] using ih
    | leftParen =>
      simp only [depthAfter] at ih
      simp only [List.count_cons_self, List.count_cons_of_ne, ne_eq, reduceCtorEq,
        not_false_eq_true]
      omega
    | rightParen =>
      have hpos : depth ≠ 0 := hclose rfl
      simp only [depthAfter] at ih
      simp only [List.count_cons_self, List.count_cons_of_ne, ne_eq, reduceCtorEq,
        not_false_eq_true]
      omega

end

/-! ## Viable beginnings -/

/-- Some continuation of the tokens is accepted by the check. -/
def Viable (ts : List Token) : Prop := ∃ us, isWellFormed (ts ++ us) = true

/-- After an operand, as many closing parentheses are missing as groups are open. -/
lemma completes_closers_iff {depth n : ℕ} : Completes false depth (closers n) ↔ n = depth := by
  induction n generalizing depth with
  | zero => simp [closers, Completes, eq_comm]
  | succ n ih =>
    have hcons : closers (n + 1) = rightParen :: closers n := rfl
    rw [hcons, Completes]
    simp only [kind, Kind.canStart, Kind.canEnd, Bool.not_true, depthAfter, ih, true_and,
      forall_const]
    omega

section

variable {due : Bool} {depth : ℕ} {us : List Token}

lemma Leads.isWellFormed_append_iff (h : Leads true 0 us due depth) (rest : List Token) :
    isWellFormed (us ++ rest) = true ↔ Completes due depth rest := by
  rw [isWellFormed_iff_completes, h.completes_append]

/-- **At every point a formula can still be completed.** -/
lemma Leads.viable (h : Leads true 0 us due depth) : Viable us := by
  have hclosers : Completes false depth (closers depth) := completes_closers_iff.2 rfl
  cases due with
  | false => exact ⟨closers depth, (h.isWellFormed_append_iff _).2 hclosers⟩
  | true =>
    refine ⟨letter 'A' :: closers depth, (h.isWellFormed_append_iff _).2 ?_⟩
    exact ((Derivable.letter 'A').completes_append depth _).2 hclosers

end

/-! ## Where the scan stops -/

/-- At a point in front of the tokens, with so many tokens already read, the scan gives up. -/
inductive Stops : Bool → ℕ → ℕ → List Token → Rejection → Prop
  /-- No group is open that could be closed. -/
  | unmatched (position : ℕ) (vs : List Token) :
      Stops false 0 position (rightParen :: vs) (.unmatched position)
  /-- The next token is no operand where one is due, or is one where none is. -/
  | badPair {due : Bool} (depth position : ℕ) (t : Token) {u : Token} (vs : List Token)
      (hnext : u.kind.canStart ≠ due) :
      Stops due depth (position + 1) (u :: vs) (.badPair t u position)
  | unclosed {due : Bool} {depth : ℕ} (position : ℕ) (hopen : depth ≠ 0) :
      Stops due depth position [] (.unclosed depth)

/-- A token at which the scan gives up fits in no continuation. -/
lemma Stops.not_completes {due : Bool} {depth position : ℕ} {v : Token} {vs : List Token}
    {r : Rejection} (h : Stops due depth position (v :: vs) r) (ws : List Token) :
    ¬Completes due depth (v :: ws) := by
  rintro ⟨hstart, hclose, -⟩
  cases h with
  | unmatched => exact hclose rfl rfl
  | badPair _ _ _ _ hnext => exact hnext hstart

/-- **The scan reads up to the point where it gives up.** -/
lemma exists_stops_of_diagnoseFrom {due : Bool} {position depth : ℕ} {ts : List Token}
    {r : Rejection} (hdue : ∀ t ∈ ts.head?, t.kind.canStart = due)
    (h : diagnoseFrom position depth ts = some r) :
    ∃ us vs due' depth', ts = us ++ vs ∧ Leads due depth us due' depth' ∧
      Stops due' depth' (position + us.length) vs r := by
  induction ts generalizing due position depth with
  | nil =>
    rw [diagnoseFrom, ite_eq_iff] at h
    obtain ⟨-, h⟩ | ⟨hopen, h⟩ := h
    · cases h
    · obtain rfl := Option.some.inj h
      exact ⟨[], [], due, depth, rfl, .nil due depth, .unclosed _ hopen⟩
  | cons t ts ih =>
    have hstart : t.kind.canStart = due := hdue t rfl
    rw [diagnoseFrom] at h
    by_cases hunmatched : t = rightParen ∧ depth = 0
    · rw [if_pos hunmatched] at h
      obtain rfl := Option.some.inj h
      obtain ⟨rfl, rfl⟩ := hunmatched
      subst hstart
      exact ⟨[], _, false, 0, rfl, .nil false 0, .unmatched position ts⟩
    · have hclose : t = rightParen → depth ≠ 0 := fun ht hd => hunmatched ⟨ht, hd⟩
      rw [if_neg hunmatched] at h
      cases hnext : ts.head?.filter (!t.kind.canPrecede ·.kind) with
      | some next =>
        rw [hnext] at h
        obtain rfl := Option.some.inj h
        obtain ⟨hhead, hpair⟩ := Option.filter_eq_some_iff.1 hnext
        obtain ⟨vs, rfl⟩ := List.head?_eq_some_iff.1 hhead
        rw [canPrecede_eq] at hpair
        -- the first token of the pair has been read, and the point behind it is the stop
        refine ⟨[t], _, _, _, rfl, .cons hstart hclose (.nil _ _), .badPair _ position t vs ?_⟩
        simpa using hpair
      | none =>
        rw [hnext] at h
        have hfits : ∀ u ∈ ts.head?, u.kind.canStart = !t.kind.canEnd := by
          intro u hu
          have hpair := Option.filter_eq_none_iff.1 hnext u hu
          rw [Bool.eq_not]
          simpa [canPrecede_eq] using hpair
        obtain ⟨us, vs, due', depth', rfl, hleads, hstops⟩ := ih hfits h
        refine ⟨t :: us, vs, due', depth', rfl, .cons hstart hclose hleads, ?_⟩
        rwa [List.length_cons, Nat.add_comm us.length, ← Nat.add_assoc]

/-- The scan is only begun if both ends fit, and it is begun where an operand is due. -/
lemma exists_stops_of_diagnose {ts : List Token} {r : Rejection} (h : diagnose ts = some r)
    (hempty : r ≠ .empty) (hends : ∀ first last, r ≠ .badEnds first last) :
    (∃ last, ts.getLast? = some last ∧ last.kind.canEnd = true) ∧
      ∃ us vs due depth, ts = us ++ vs ∧ Leads true 0 us due depth ∧
        Stops due depth us.length vs r := by
  rw [diagnose] at h
  split at h
  next first last hfirst hlast =>
    split at h
    next hfit =>
      obtain ⟨hstart, hend⟩ := Bool.and_eq_true_iff.1 hfit
      have hdue : ∀ t ∈ ts.head?, t.kind.canStart = true := by
        intro t ht
        obtain rfl : first = t := Option.some.inj (hfirst.symm.trans ht)
        exact hstart
      have hstops := exists_stops_of_diagnoseFrom hdue h
      simp only [Nat.zero_add] at hstops
      exact ⟨⟨last, hlast, hend⟩, hstops⟩
    next => exact absurd (Option.some.inj h).symm (hends first last)
  next => exact absurd (Option.some.inj h).symm hempty

/-! ## The tokens at the error -/

section

variable {ts : List Token} {i : ℕ}

/-- No continuation is accepted any more when the next token has been read. -/
lemma Stops.not_viable {due : Bool} {depth position : ℕ} {us vs : List Token} {v : Token}
    {r : Rejection} (h : Stops due depth position (v :: vs) r) (hus : Leads true 0 us due depth) :
    ¬Viable (us ++ [v]) := by
  rintro ⟨ws, hws⟩
  rw [List.append_assoc, hus.isWellFormed_append_iff] at hws
  exact h.not_completes ws hws

/-- A closing parenthesis without a partner follows a complete formula. -/
lemma unmatched_follows (h : diagnose ts = some (.unmatched i)) :
    isWellFormed (ts.take i) = true ∧ ¬Viable (ts.take (i + 1)) := by
  obtain ⟨-, us, vs, due, depth, rfl, hus, hstops⟩ :=
    exists_stops_of_diagnose h (by simp) (by simp)
  generalize hlen : us.length = n at hstops
  cases hstops with
  | unmatched _ vs =>
    have hformula : isWellFormed us = true := by
      have hend : Completes false 0 [] := ⟨rfl, rfl⟩
      simpa using (hus.isWellFormed_append_iff []).2 hend
    subst hlen
    rw [List.take_left, List.take_length_add_append, List.take_one]
    exact ⟨hformula, Stops.not_viable (.unmatched us.length vs) hus⟩

/-- Of two tokens that do not fit the second is the first that fits in no continuation. -/
lemma badPair_follows {t u : Token} (h : diagnose ts = some (.badPair t u i)) :
    Viable (ts.take (i + 1)) ∧ ¬Viable (ts.take (i + 2)) := by
  obtain ⟨-, us, vs, due, depth, rfl, hus, hstops⟩ :=
    exists_stops_of_diagnose h (by simp) (by simp)
  generalize hlen : us.length = n at hstops
  have hstops' := hstops
  cases hstops with
  | badPair _ _ _ vs hnext =>
    rw [← hlen, List.take_left, show i + 2 = us.length + 1 by omega, List.take_length_add_append]
    exact ⟨hus.viable, hstops'.not_viable hus⟩

/-- At the end of the sequence only closing parentheses are missing. -/
lemma unclosed_completes {k : ℕ} (h : diagnose ts = some (.unclosed k)) :
    Viable ts ∧ 0 < k ∧ ts.count leftParen = ts.count rightParen + k ∧
      ∀ n, isWellFormed (ts ++ List.replicate n rightParen) = true ↔ n = k := by
  obtain ⟨⟨last, hlast, hend⟩, us, vs, due, depth, rfl, hus, hstops⟩ :=
    exists_stops_of_diagnose h (by simp) (by simp)
  generalize hlen : us.length = n at hstops
  cases hstops with
  | unclosed _ hopen =>
    rw [List.append_nil] at hlast ⊢
    -- a closing parenthesis may come next because the last token ends an operand
    obtain rfl : due = false := by simpa [hend] using hus.due_of_getLast? hlast
    have hcount := hus.count_parens
    refine ⟨hus.viable, Nat.pos_of_ne_zero hopen, by omega, fun n => ?_⟩
    exact (hus.isWellFormed_append_iff _).trans completes_closers_iff

end

end Token

/-! ## The entries of the journal -/

namespace Journal

open Token (Rejection Viable isWellFormed diagnose)

/-- A number at the end of a text is found again, if a blank stands before it. -/
lemma toString_inj_of_append {m n : ℕ} {s s' : String} (hs : s.toList.getLast? = some ' ')
    (hs' : s'.toList.getLast? = some ' ') (h : s ++ toString m = s' ++ toString n) : m = n := by
  have hdigits : ∀ (k : ℕ) (s : String), s.toList.getLast? = some ' ' →
      (s ++ toString k).toList.reverse.takeWhile Char.isDigit = (toString k).toList.reverse := by
    intro k s hs
    obtain ⟨cs, hcs⟩ := List.getLast?_eq_some_iff.1 hs
    have hall : ∀ c ∈ (toString k).toList.reverse, c.isDigit = true :=
      fun c hc => isDigit_of_mem_toString (List.mem_reverse.1 hc)
    rw [String.toList_append, hcs, List.reverse_append, List.reverse_append,
      List.reverse_singleton, List.takeWhile_append_of_pos hall, List.singleton_append,
      List.takeWhile_cons_of_neg (by decide), List.append_nil]
  have hreverse : (toString m).toList.reverse = (toString n).toList.reverse := by
    rw [← hdigits m s hs, h, hdigits n s' hs']
  exact Nat.repr_inj.1 (String.toList_inj.1 (List.reverse_injective hreverse))

/-- The first character of the reason in the entry about a rejected sequence.  All entries begin
with the same sixteen characters. -/
def initial? : Rejection → Option Char
  | .empty => some 'e'
  | .badEnds _ _ => some 'b'
  | .unmatched _ => some 'u'
  | .badPair _ _ _ => some '\''
  | .unclosed _ => none

lemma getElem?_text_ofRejection (r : Rejection) :
    (ofRejection r).head?.bind (fun entry => entry.text.toList[16]?) = initial? r := by
  cases r <;> simp [ofRejection, initial?]

section

variable {r : Rejection} {i : ℕ}

lemma initial?_eq_of_ofRejection_eq {r' : Rejection} (h : ofRejection r = ofRejection r') :
    initial? r = initial? r' := by
  rw [← getElem?_text_ofRejection, h, getElem?_text_ofRejection]

lemma eq_unmatched_of_ofRejection_eq (h : ofRejection r = ofRejection (.unmatched i)) :
    r = .unmatched i := by
  have hinitial := initial?_eq_of_ofRejection_eq h
  cases r with
  | unmatched k =>
    have htext := congrArg Entry.text (List.head_eq_of_cons_eq h)
    rw [toString_inj_of_append (by decide) (by decide) htext]
  | _ => simp [initial?] at hinitial

lemma exists_badPair_of_ofRejection_eq {t u : Token}
    (h : ofRejection r = ofRejection (.badPair t u i)) : ∃ t' u', r = .badPair t' u' i := by
  have hinitial := initial?_eq_of_ofRejection_eq h
  cases r with
  | badPair t' u' k =>
    have htext := congrArg Entry.text (List.head_eq_of_cons_eq h)
    have hblank : ∀ s : String, (s ++ "' at ").toList.getLast? = some ' ' := by
      intro s
      rw [String.toList_append, List.getLast?_append]
      rfl
    have hk : k = i := toString_inj_of_append (hblank _) (hblank _) htext
    exact ⟨t', u', by rw [hk]⟩
  | _ => simp [initial?] at hinitial

/-- Only a group that is not closed is rejected without an entry. -/
lemma exists_unclosed_of_ofRejection_eq_nil (h : ofRejection r = []) : ∃ k, r = .unclosed k := by
  cases r with
  | unclosed k => exact ⟨k, rfl⟩
  | _ => cases h

/-- An entry about the check is about the reason of the rejection. -/
lemma exists_diagnose_of_ofCheck {ts : List Token} (h : ofCheck ts = ofRejection r)
    (hentry : ofRejection r ≠ []) :
    ∃ r', diagnose ts = some r' ∧ ofRejection r' = ofRejection r := by
  rw [ofCheck] at h
  cases hr : diagnose ts with
  | none =>
    rw [hr] at h
    exact absurd h.symm hentry
  | some r' =>
    rw [hr] at h
    exact ⟨r', rfl, h⟩

end

/-- What the entry about the check says of the sequence. -/
structure PointsOut (ts : List Token) : Prop where
  /-- The tokens in front of an unmatched parenthesis are a formula already. -/
  unmatched : ∀ i, ofCheck ts = ofRejection (.unmatched i) →
    isWellFormed (ts.take i) = true ∧ ¬Viable (ts.take (i + 1))
  /-- Of two neighbours that do not fit, the first can still be continued and the second cannot. -/
  badPair : ∀ t u i, ofCheck ts = ofRejection (.badPair t u i) →
    Viable (ts.take (i + 1)) ∧ ¬Viable (ts.take (i + 2))
  /-- If nothing is noted, just the surplus of opening parentheses has to be closed. -/
  unclosed : isWellFormed ts = false → ofCheck ts = [] →
    Viable ts ∧ ∃ k, 0 < k ∧ ts.count .leftParen = ts.count .rightParen + k ∧
      ∀ n, isWellFormed (ts ++ List.replicate n .rightParen) = true ↔ n = k
  accepted : isWellFormed ts = true → ofCheck ts = []

/-- **The check points out the first error**, the first token after which no continuation is
accepted. -/
theorem ofCheck_pointsOut (ts : List Token) : PointsOut ts where
  unmatched i h := by
    obtain ⟨r, hr, htext⟩ := exists_diagnose_of_ofCheck h (by simp [ofRejection])
    rw [eq_unmatched_of_ofRejection_eq htext] at hr
    exact Token.unmatched_follows hr
  badPair t u i h := by
    obtain ⟨r, hr, htext⟩ := exists_diagnose_of_ofCheck h (by simp [ofRejection])
    obtain ⟨t', u', rfl⟩ := exists_badPair_of_ofRejection_eq htext
    exact Token.badPair_follows hr
  unclosed hrejected h := by
    obtain ⟨r, hr⟩ : ∃ r, diagnose ts = some r := by
      rw [isWellFormed] at hrejected
      exact Option.isSome_iff_exists.1 (by simpa using hrejected)
    have hsilent : ofRejection r = [] := by simpa [ofCheck, hr] using h
    obtain ⟨k, rfl⟩ := exists_unclosed_of_ofRejection_eq_nil hsilent
    obtain ⟨hviable, hk⟩ := Token.unclosed_completes hr
    exact ⟨hviable, k, hk⟩
  accepted h := by
    have hnone : diagnose ts = none := by simpa [isWellFormed] using h
    rw [ofCheck, hnone]
    rfl

/-- The tokens `A)&(B` are given up at the second one, and `(AB` at the third.  The tokens
`((A` lack two closing parentheses. -/
theorem ofCheck_pointsOut_three_errors :
    let crossed : List Token :=
      [.letter 'A', .rightParen, .connective (.binary .and), .leftParen, .letter 'B']
    let juxtaposed : List Token := [.leftParen, .letter 'A', .letter 'B', .rightParen]
    let nested : List Token := [.leftParen, .leftParen, .letter 'A']
    (ofCheck crossed = [⟨.debug, "is_well_formed: unmatched ')' at 1"⟩] ∧
        isWellFormed (crossed.take 1) = true ∧ ¬Viable (crossed.take 2)) ∧
      (ofCheck juxtaposed =
          [⟨.debug, "is_well_formed: 'A' cannot be followed by 'B' at 1"⟩] ∧
        Viable (juxtaposed.take 2) ∧ ¬Viable (juxtaposed.take 3)) ∧
      ofCheck nested = [] ∧
        ∀ n, isWellFormed (nested ++ List.replicate n .rightParen) = true ↔ n = 2 := by
  intro crossed juxtaposed nested
  have hsilent : ofCheck nested = [] := by decide
  obtain ⟨-, k, -, hcount, hclosed⟩ := (ofCheck_pointsOut nested).unclosed (by decide) hsilent
  obtain rfl : k = 2 := by simpa [nested] using hcount.symm
  have hunmatched := (ofCheck_pointsOut crossed).unmatched 1 (by decide)
  have hpair := (ofCheck_pointsOut juxtaposed).badPair (.letter 'A') (.letter 'B') 1 (by decide)
  exact ⟨⟨by decide, hunmatched⟩, ⟨by decide, hpair⟩, hsilent, hclosed⟩

end Journal

end TruthTable
