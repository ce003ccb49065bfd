/-
# Rows: the values of all subformulas under one assignment

An assignment gives truth values to letters, possibly not to all of them.  A row holds the
truth value of every subformula of one formula, found by its label.  It is made by one
fold over the formula, and can then be read through the columns of a table.
-/
import TruthTable.Columns

namespace TruthTable

open Postorder (Step Misfit)

/-- The truth values of some letters. -/
abbrev Assignment := Char → Option Bool

/-- Truth values by label, each label once. -/
structure Row where
  entries : List (String × Bool) := []
  nodup : (entries.map Prod.fst).Nodup := by simp

namespace Row

/-- The row without any value. -/
def empty : Row := {}

/-- The value for a label. -/
def get? (row : Row) (label : String) : Option Bool := row.entries.lookup label

/-- The number of labels. -/
def size (row : Row) : Nat := row.entries.length

/-- Whether there is no label. -/
def isEmpty (row : Row) : Bool := row.entries.isEmpty

/-- Sets the value of a label in a list of entries, in its place or else at the end. -/
def putEntry (label : String) (value : Bool) : List (String × Bool) → List (String × Bool)
  | [] => [(label, value)]
  | e :: es => if e.1 = label then (label, value) :: es else e :: putEntry label value es

theorem map_fst_putEntry (label : String) (value : Bool) (es : List (String × Bool)) :
    (putEntry label value es).map Prod.fst =
      if label ∈ es.map Prod.fst then es.map Prod.fst else es.map Prod.fst ++ [label] := by
  induction es with
  | nil => simp [putEntry]
  | cons e es ih =>
    by_cases h : e.1 = label
    · simp [putEntry, h]
    · have h' : ¬label = e.1 := fun h' => h h'.symm
      simp only [putEntry, if_neg h, List.map_cons, ih, List.mem_cons, h', false_or]
      split <;> simp

theorem nodup_putEntry {label : String} {value : Bool} {es : List (String × Bool)}
    (h : (es.map Prod.fst).Nodup) : ((putEntry label value es).map Prod.fst).Nodup := by
  rw [map_fst_putEntry]
  split
  · exact h
  · rename_i hmem
    rw [List.nodup_append]
    refine ⟨h, by simp, ?_⟩
    intro a ha b hb
    rw [List.mem_singleton] at hb
    rintro rfl
    exact hmem (hb ▸ ha)

/-- Sets the value of a label. -/
def put (row : Row) (label : String) (value : Bool) : Row where
  entries := putEntry label value row.entries
  nodup := nodup_putEntry row.nodup

theorem lookup_putEntry (label other : String) (value : Bool) (es : List (String × Bool)) :
    (putEntry label value es).lookup other =
      if other = label then some value else es.lookup other := by
  induction es with
  | nil =>
    by_cases h : other = label
    · simp [putEntry, h]
    · simp [putEntry, List.lookup_cons, beq_eq_false_iff_ne.2 h, h]
  | cons e es ih =>
    obtain ⟨key, old⟩ := e
    by_cases he : key = label
    · by_cases h : other = label
      · simp [putEntry, he, h]
      · simp [putEntry, he, List.lookup_cons, beq_eq_false_iff_ne.2 h, h]
    · simp only [putEntry, if_neg he, List.lookup_cons]
      split
      · rename_i h
        have h' : other = key := by simpa using h
        rw [if_neg (fun h => he (h'.symm.trans h))]
      · exact ih

/-- What was put last is found, and all other labels keep their values. -/
theorem get?_put (row : Row) (label other : String) (value : Bool) :
    (row.put label value).get? other = if other = label then some value else row.get? other :=
  lookup_putEntry label other value row.entries

/-- Enters a value under a label and gives both back. -/
def enter (label : String) (value : Bool) : StateT Row (Except Fault) (String × Bool) := do
  modify (·.put label value)
  pure (label, value)

/-- Evaluates one node of a formula, and enters its value under its label. -/
def evaluateStep (assignment : Assignment) :
    Step (String × Bool) → StateT Row (Except Fault) (String × Bool)
  | .letter c =>
    match assignment c with
    | some value => enter (Label.letter c) value
    | none => throw (.unassigned c)
  | .unary op (a, x) => do enter (Label.unary op a) (← op.applyUnary x)
  | .binary op (a, x) (b, y) => do enter (Label.binary op a b) (← op.applyBinary x y)

/-- The row of a sequence in postorder under an assignment. -/
def evaluate (ps : List Token) (assignment : Assignment) : Except Failure Row :=
  match (Postorder.fold (evaluateStep assignment) ps).run empty with
  | .error fault => .error (.fault fault)
  | .ok (.error misfit, _) => .error misfit.failure
  | .ok (.ok _, row) => .ok row

/-- The values of a row in column order. -/
def project (row : Row) (cols : Columns) : Except Fault (List Bool) :=
  cols.labels.mapM fun label =>
    match row.get? label with
    | some value => .ok value
    | none => .error (.missingColumn label)

end Row

end TruthTable
