/-
# Sequences in postorder

A formula is determined by its tokens in postorder, and even by any sequence that ends in
them: read from the right, the last token says whether the formula is a letter, a negation
or a binary formula, and the operands are found in front of it (`postorder_append_inj`).

The fold of a sequence agrees with the recursion over the formula that the sequence
stands for: in the middle of a fold, the postorder of a formula replaces all its steps by
one operand on the stack (`foldFrom_postorder_append`).  A sequence that is not the
postorder of any formula ends in a misfit, whatever the step does
(`postorder_or_misfit`).  To see this one keeps track of the formulas whose
values are on the stack; together they always account for all tokens that were read.
-/
import Mathlib.Data.List.Basic
import TruthTable.Formula.Fold

namespace TruthTable

namespace Formula

/-! ## Unique readability -/

/-- A sequence ends in the postorder of at most one formula. -/
lemma postorder_append_inj {f g : Formula} {xs ys : List Token}
    (h : xs ++ f.postorder = ys ++ g.postorder) : f = g ∧ xs = ys := by
  induction f generalizing g xs ys with
  | letter c =>
    cases g with
    | letter d =>
      obtain ⟨rfl, hlast⟩ := List.append_inj' h rfl
      simpa [postorder] using hlast
    | not g => simp [postorder, ← List.append_assoc] at h
    | binary op g g' => simp [postorder, ← List.append_assoc] at h
  | not f ih =>
    cases g with
    | letter d => simp [postorder, ← List.append_assoc] at h
    | not g =>
      simp only [postorder, ← List.append_assoc] at h
      obtain ⟨rfl, rfl⟩ := ih (List.append_cancel_right h)
      exact ⟨rfl, rfl⟩
    | binary op g g' => simp [postorder, ← List.append_assoc] at h
  | binary op f f' ihf ihf' =>
    cases g with
    | letter d => simp [postorder, ← List.append_assoc] at h
    | not g => simp [postorder, ← List.append_assoc] at h
    | binary op' g g' =>
      simp only [postorder, ← List.append_assoc] at h
      obtain ⟨hrest, hlast⟩ := List.append_inj' h rfl
      have hop : op = op' := by simpa using hlast
      obtain ⟨rfl, hleft⟩ := ihf' hrest
      obtain ⟨rfl, rfl⟩ := ihf hleft
      exact ⟨by rw [hop], rfl⟩

lemma postorder_injective {f g : Formula} (h : f.postorder = g.postorder) : f = g :=
  (@postorder_append_inj f g [] [] h).1

/-- The letters of the postorder are the letters of the formula, in their order. -/
@[simp] lemma filterMap_letter?_postorder (f : Formula) :
    f.postorder.filterMap Token.letter? = f.letters := by
  induction f with
  | letter c => rfl
  | not f ih => simp [postorder, letters, ih]
  | binary op f g ihf ihg => simp [postorder, letters, ihf, ihg]

end Formula

namespace Postorder

open Formula

variable {m : Type → Type} [Monad m] {α : Type}

/-! ## Folds of formulas -/

/-- In a fold the postorder of a formula amounts to one operand, the fold of the formula. -/
lemma foldFrom_postorder_append [LawfulMonad m] (step : Step α → m α) (f : Formula)
    (stack : List α) (ps : List Token) :
    foldFrom step stack (f.postorder ++ ps) =
      f.foldM step >>= fun a => foldFrom step (a :: stack) ps := by
  induction f generalizing stack ps with
  | letter c => simp [postorder, foldFrom, foldM]
  | not f ih => simp [postorder, foldFrom, foldM, ih]
  | binary op f g ihf ihg => simp [postorder, foldFrom, foldM, ihf, ihg]

lemma fold_postorder [LawfulMonad m] (step : Step α → m α) (f : Formula) :
    fold step f.postorder = Except.ok <$> f.foldM step := by
  have h := foldFrom_postorder_append step f [] []
  rw [List.append_nil] at h
  rw [fold, h, map_eq_pure_bind]
  rfl

/-! ## Misfits -/

/-- The postorders of the formulas on a stack, the latest formula last. -/
def spell (fs : List Formula) : List Token := fs.reverse.flatMap postorder

@[simp] lemma spell_nil : spell [] = [] := rfl

@[simp] lemma spell_cons (f : Formula) (fs : List Formula) :
    spell (f :: fs) = spell fs ++ f.postorder := by
  simp [spell]

/-- The fold of `ps` on a stack of `count` operands ends in a misfit, after some steps. -/
def EndsInMisfit (ps : List Token) (count : ℕ) (e : Misfit) : Prop :=
  ∀ {m : Type → Type} [Monad m] [LawfulMonad m] {α : Type} (step : Step α → m α)
    (stack : List α), stack.length = count →
      ∃ before : m PUnit, foldFrom step stack ps = before >>= fun _ => pure (.error e)

namespace EndsInMisfit

variable {ps : List Token} {count : ℕ} {e : Misfit}

/-- The fold stops at once. -/
lemma of_eq_pure
    (h : ∀ {m : Type → Type} [Monad m] {α : Type} (step : Step α → m α) (stack : List α),
      stack.length = count → foldFrom step stack ps = pure (.error e)) :
    EndsInMisfit ps count e := by
  intro m _ _ α step stack hlen
  exact ⟨pure ⟨⟩, by rw [h step stack hlen, pure_bind]⟩

/-- The fold goes on with one more operand. -/
lemma bind [LawfulMonad m] {stack : List α} (h : EndsInMisfit ps (stack.length + 1) e)
    (step : Step α → m α) (x : m α) :
    ∃ before : m PUnit, (x >>= fun a => foldFrom step (a :: stack) ps) =
      before >>= fun _ => pure (.error e) := by
  have hstep : ∀ a : α, ∃ before : m PUnit,
      foldFrom step (a :: stack) ps = before >>= fun _ => pure (.error e) :=
    fun a => h step (a :: stack) rfl
  choose before hbefore using hstep
  refine ⟨x >>= before, ?_⟩
  rw [bind_assoc]
  exact congrArg (x >>= ·) (funext hbefore)

lemma letter (c : Char) (h : EndsInMisfit ps (count + 1) e) :
    EndsInMisfit (.letter c :: ps) count e := by
  rintro m _ _ α step stack rfl
  exact h.bind step _

lemma not (h : EndsInMisfit ps (count + 1) e) :
    EndsInMisfit (.connective .not :: ps) (count + 1) e := by
  intro m _ _ α step stack hlen
  obtain ⟨a, stack, rfl⟩ := List.exists_cons_of_length_eq_add_one hlen
  obtain rfl : stack.length = count := by simpa using hlen
  exact h.bind step _

lemma binary (op : BinaryConnective) (h : EndsInMisfit ps (count + 1) e) :
    EndsInMisfit (.connective (.binary op) :: ps) (count + 2) e := by
  intro m _ _ α step stack hlen
  obtain ⟨b, stack, rfl⟩ := List.exists_cons_of_length_eq_add_one hlen
  obtain ⟨a, stack, rfl⟩ := List.exists_cons_of_length_eq_add_one (Nat.succ.inj hlen)
  obtain rfl : stack.length = count := by simpa using hlen
  exact h.bind step _

end EndsInMisfit

/-- What was read and what is to come together are the postorder of a formula, or the fold
ends in a misfit. -/
lemma postorder_or_misfit_of_spell (ps : List Token) (fs : List Formula) :
    (∃ f : Formula, spell fs ++ ps = f.postorder) ∨
      ∃ e : Misfit, EndsInMisfit ps fs.length e := by
  induction ps generalizing fs with
  | nil =>
    match fs with
    | [] =>
      refine .inr ⟨.missingOperand, EndsInMisfit.of_eq_pure fun step stack hlen => ?_⟩
      rw [List.eq_nil_of_length_eq_zero hlen]
      rfl
    | [f] => exact .inl ⟨f, by simp⟩
    | f :: g :: fs =>
      refine .inr ⟨.leftOver (fs.length + 1), EndsInMisfit.of_eq_pure fun step stack hlen => ?_⟩
      match stack, hlen with
      | a :: b :: stack, hlen =>
        have hstack : stack.length = fs.length := by simpa using hlen
        simp [foldFrom, hstack]
  | cons t ps ih =>
    -- with enough operands the token turns the top of the stack into one formula
    match t, fs with
    | .letter c, fs =>
      rcases ih (.letter c :: fs) with ⟨f, hf⟩ | ⟨e, he⟩
      · exact .inl ⟨f, by simpa [postorder] using hf⟩
      · exact .inr ⟨e, he.letter c⟩
    | .connective .not, f :: fs =>
      rcases ih (.not f :: fs) with ⟨f', hf⟩ | ⟨e, he⟩
      · exact .inl ⟨f', by simpa [postorder] using hf⟩
      · exact .inr ⟨e, EndsInMisfit.not he⟩
    | .connective (.binary op), g :: f :: fs =>
      rcases ih (.binary op f g :: fs) with ⟨f', hf⟩ | ⟨e, he⟩
      · exact .inl ⟨f', by simpa [postorder] using hf⟩
      · exact .inr ⟨e, EndsInMisfit.binary op he⟩
    | .connective .not, [] | .connective (.binary op), [] =>
      refine .inr ⟨.missingOperand, EndsInMisfit.of_eq_pure fun step stack hlen => ?_⟩
      rw [List.eq_nil_of_length_eq_zero hlen]
      rfl
    | .connective (.binary op), [f] =>
      refine .inr ⟨.missingOperand, EndsInMisfit.of_eq_pure fun step stack hlen => ?_⟩
      obtain ⟨a, rfl⟩ := List.length_eq_one_iff.1 hlen
      rfl
    | .leftParen, fs | .rightParen, fs =>
      refine .inr ⟨.parenthesis, EndsInMisfit.of_eq_pure fun step stack _ => ?_⟩
      cases stack <;> rfl

/-- A sequence is the postorder of a formula, or its fold ends in a misfit. -/
lemma postorder_or_misfit (ps : List Token) :
    (∃ f : Formula, ps = f.postorder) ∨ ∃ e : Misfit, EndsInMisfit ps 0 e := by
  simpa using postorder_or_misfit_of_spell ps []

end Postorder

end TruthTable
