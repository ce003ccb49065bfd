/-
# The columns of a formula

The columns of a sequence in postorder are found by a fold that keeps a list of labels and
adds a label unless it is listed.  This file says which formulas the columns stand for: the
given letters, and then the compound subformulas, each once, in the order in which they
are completed (`Formula.columns`, `Columns.ofPostorder_postorder`).

The fold compares labels and not formulas.  The two agree because a label determines its
formula; and no compound label is listed among the letters, because it is longer.  For the
same reason the whole formula comes last (`getLast?_columns`).
-/
import Mathlib.Data.List.Nodup
import TruthTable.Columns
import TruthTable.Proofs.Label
import TruthTable.Proofs.Postorder

namespace TruthTable

namespace Formula

/-- The compound subformulas, each once, in the order in which they are completed. -/
def compounds (f : Formula) : List Formula := (f.subformulas.filter isCompound).eraseDups

/-- The formulas that the columns stand for: the given letters and the compound
subformulas. -/
def columns (cs : List Char) (f : Formula) : List Formula := cs.map letter ++ f.compounds

lemma mem_compounds {u f : Formula} :
    u ∈ f.compounds ↔ u ∈ f.subformulas ∧ u.isCompound = true := by
  simp [compounds, List.mem_eraseDups]

/-- If just the letters of the formula are given, the columns stand for its subformulas. -/
lemma mem_columns {u f : Formula} {cs : List Char} (hcs : ∀ c, c ∈ cs ↔ c ∈ f.letters) :
    u ∈ f.columns cs ↔ u ∈ f.subformulas := by
  rw [columns, List.mem_append, mem_compounds]
  cases u with
  | letter c => simp [isCompound, hcs, letter_mem_subformulas]
  | not u => simp [isCompound]
  | binary op u v => simp [isCompound]

/-! ## No column twice -/

/-- Removing repetitions leaves none. -/
lemma nodup_eraseDups {α : Type} [DecidableEq α] (as : List α) : as.eraseDups.Nodup := by
  match as with
  | [] => simp
  | a :: as =>
    rw [List.eraseDups_cons, List.nodup_cons]
    refine ⟨?_, nodup_eraseDups _⟩
    simp [List.mem_eraseDups]
termination_by as.length
decreasing_by
  exact Nat.lt_succ_of_le (List.length_filter_le _ _)

/-- The columns stand for different formulas, if the given letters are different. -/
lemma nodup_columns {cs : List Char} (hcs : cs.Nodup) (f : Formula) : (f.columns cs).Nodup := by
  rw [columns, List.nodup_append]
  have hletter : Function.Injective letter := fun c d hcd => by simpa using hcd
  refine ⟨hcs.map hletter, nodup_eraseDups _, ?_⟩
  rintro u hu v hv rfl
  obtain ⟨c, -, rfl⟩ := List.mem_map.1 hu
  exact absurd (mem_compounds.1 hv).2 (by simp [isCompound])

/-! ## The last column -/

lemma getLast?_compounds {f : Formula} (h : f.isCompound = true) :
    f.compounds.getLast? = some f := by
  obtain ⟨us, hus, hlt⟩ := f.exists_subformulas_eq_concat
  have hnew : f ∉ us := fun hf => Nat.lt_irrefl _ (hlt f hf)
  have hlast : ([f].removeAll (us.filter isCompound)).eraseDups = [f] := by
    rw [List.removeAll, List.filter_cons_of_pos (by simp [hnew]), List.filter_nil,
      List.eraseDups_cons, List.filter_nil, List.eraseDups_nil]
  rw [compounds, hus, List.filter_append, List.filter_cons_of_pos h, List.filter_nil,
    List.eraseDups_append, hlast, List.getLast?_append]
  rfl

/-- The whole formula has the last column. -/
lemma getLast?_columns {f : Formula} {cs : List Char}
    (h : ∀ c, f = letter c → cs.getLast? = some c) : (f.columns cs).getLast? = some f := by
  rw [columns, List.getLast?_append]
  cases f with
  | letter c => simp [compounds, subformulas, isCompound, h c rfl]
  | not f => simp [getLast?_compounds (f := not f) rfl]
  | binary op f g => simp [getLast?_compounds (f := binary op f g) rfl]

end Formula

namespace Columns

open Formula
open Postorder (Step Misfit)

/-! ## Lists without repetition -/

/-- Adding labels one by one adds those that are not listed, each at its first place. -/
lemma foldl_addNew (us labels : List String) :
    us.foldl addNew labels = labels ++ (us.filter (· ∉ labels)).eraseDups := by
  induction us generalizing labels with
  | nil => simp
  | cons u us ih =>
    rw [List.foldl_cons, ih, addNew]
    by_cases hu : u ∈ labels
    · rw [if_pos hu, List.filter_cons_of_neg (by simpa using hu)]
    · -- from now on `u` is listed, so its later occurrences are dropped as well
      have hrest : us.filter (· ∉ labels ++ [u]) =
          (us.filter (· ∉ labels)).filter (fun v => !v == u) := by
        rw [List.filter_filter]
        refine List.filter_congr fun v _ => ?_
        by_cases hv : v = u <;> simp [hv]
      rw [if_neg hu, List.filter_cons_of_pos (by simpa using hu), List.eraseDups_cons, hrest,
        List.append_assoc]
      rfl

/-- A function that tells the members of a list apart keeps them apart. -/
lemma eraseDups_map {α β : Type} [DecidableEq α] [DecidableEq β] (g : α → β) {as : List α}
    (hg : ∀ a ∈ as, ∀ b ∈ as, g a = g b → a = b) :
    (as.map g).eraseDups = as.eraseDups.map g := by
  match as with
  | [] => rfl
  | a :: as =>
    -- the recursion is on what is left after all copies of the first member are removed
    have hfilter : (as.map g).filter (fun b => !b == g a) =
        (as.filter fun b => !b == a).map g := by
      rw [List.filter_map]
      refine congrArg (List.map g) (List.filter_congr fun b hb => ?_)
      have hiff : g b = g a ↔ b = a :=
        ⟨hg b (List.mem_cons_of_mem a hb) a List.mem_cons_self, fun h => by rw [h]⟩
      simp [hiff]
    have hrest : ∀ b ∈ as.filter fun b => !b == a, ∀ b' ∈ as.filter fun b => !b == a,
        g b = g b' → b = b' :=
      fun b hb b' hb' => hg b (List.mem_cons_of_mem a (List.mem_of_mem_filter hb)) b'
        (List.mem_cons_of_mem a (List.mem_of_mem_filter hb'))
    rw [List.map_cons, List.eraseDups_cons, hfilter, eraseDups_map g hrest,
      List.eraseDups_cons, List.map_cons]
termination_by as.length
decreasing_by
  exact Nat.lt_succ_of_le (List.length_filter_le _ _)

/-! ## The fold over a formula -/

/-- The fold of a formula adds the labels of its compound subformulas. -/
lemma run_foldM_labelStep (f : Formula) (labels : List String) :
    (f.foldM labelStep).run labels =
      (f.label, ((f.subformulas.filter isCompound).map label).foldl addNew labels) := by
  induction f generalizing labels with
  | letter c => rfl
  | not f ih =>
    have hself : [f.not].filter isCompound = [f.not] := rfl
    rw [foldM, StateT.run_bind, ih, subformulas, List.filter_append, hself, List.map_append,
      List.foldl_append]
    rfl
  | binary op f g ihf ihg =>
    have hself : [binary op f g].filter isCompound = [binary op f g] := rfl
    rw [foldM, StateT.run_bind, ihf]
    simp only [subformulas, List.filter_append, hself, List.map_append, List.foldl_append]
    change (StateT.run (g.foldM labelStep >>= fun b => labelStep (.binary _ f.label b)) _) = _
    rw [StateT.run_bind, ihg]
    rfl

lemma ofPostorder_eq_foldl (f : Formula) (seeds : List Char) :
    ofPostorder f.postorder seeds = .ok
      { labels := ((f.subformulas.filter isCompound).map label).foldl addNew
          (seeds.map Label.letter)
        formula := f.label } := by
  rw [ofPostorder, Postorder.fold_postorder, StateT.run_map, run_foldM_labelStep]
  rfl

/-- No compound label is one of the letters. -/
lemma label_notMem_seeds {u : Formula} {seeds : List Char} (hu : u.isCompound = true) :
    u.label ∉ seeds.map Label.letter := by
  intro hmem
  obtain ⟨c, -, hc⟩ := List.mem_map.1 hmem
  have hlong := one_lt_length_label hu
  have hone : (letter c).label.length = 1 := length_label_letter c
  rw [show (letter c).label = u.label from hc] at hone
  omega

lemma map_label_columns (f : Formula) (seeds : List Char) :
    (f.columns seeds).map label = seeds.map Label.letter ++ f.compounds.map label := by
  rw [columns, List.map_append, List.map_map]
  rfl

/-- **The columns of a formula** stand for the given letters and for the compound
subformulas in the order in which they are completed. -/
lemma ofPostorder_postorder {f : Formula} (hf : f.Legible) (seeds : List Char) :
    ofPostorder f.postorder seeds =
      .ok { labels := (f.columns seeds).map label, formula := f.label } := by
  have hlong : ∀ l ∈ (f.subformulas.filter isCompound).map label,
      decide (l ∉ seeds.map Label.letter) = true := by
    intro l hl
    obtain ⟨u, hu, rfl⟩ := List.mem_map.1 hl
    exact decide_eq_true (label_notMem_seeds (List.mem_filter.1 hu).2)
  have hinj : ∀ u ∈ f.subformulas.filter isCompound, ∀ v ∈ f.subformulas.filter isCompound,
      u.label = v.label → u = v := by
    intro u hu v hv
    exact label_injective (hf.of_mem_subformulas (List.mem_of_mem_filter hu))
      (hf.of_mem_subformulas (List.mem_of_mem_filter hv))
  rw [ofPostorder_eq_foldl, foldl_addNew, List.filter_eq_self.2 hlong, eraseDups_map label hinj,
    map_label_columns, compounds]

/-- Only the postorder of a formula has columns. -/
lemma exists_postorder_of_ofPostorder {ps : List Token} {seeds : List Char} {cols : Columns}
    (h : ofPostorder ps seeds = .ok cols) : ∃ f : Formula, ps = f.postorder := by
  rcases Postorder.postorder_or_misfit ps with hf | ⟨e, he⟩
  · exact hf
  · obtain ⟨before, hfold⟩ := he labelStep [] rfl
    rw [ofPostorder, Postorder.fold, hfold, StateT.run_bind] at h
    exact absurd h (by simp [StateT.run_pure, Except.map])

end Columns

end TruthTable
