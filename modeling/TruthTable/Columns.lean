/-
# The columns of a table

A table has one column for each label: first the letters that it is started with, as
they are given, and then the labels of the compound subformulas in the order in which
these are completed, each label once.
-/
import TruthTable.Label
import TruthTable.Postorder.Fold

namespace TruthTable

open Postorder (Step Misfit)

/-- The labels of a table in column order, and the label of the whole formula. -/
structure Columns where
  labels : List String
  formula : String
deriving DecidableEq

namespace Columns

/-- The number of columns. -/
def size (cols : Columns) : Nat := cols.labels.length

/-- Whether there is no column. -/
def isEmpty (cols : Columns) : Bool := cols.labels.isEmpty

/-- Whether a label has a column. -/
def contains (cols : Columns) (label : String) : Bool := cols.labels.contains label

/-- The position of the first column with this label. -/
def position? (cols : Columns) (label : String) : Option Nat := cols.labels.idxOf? label

/-- Adds a label at the end of a list, unless it is there. -/
def addNew (labels : List String) (label : String) : List String :=
  if label ∈ labels then labels else labels ++ [label]

/-- Lists a label, unless it is listed, and gives it back. -/
def list (label : String) : StateM (List String) String := do
  modify (addNew · label)
  pure label

/-- Labels one node of a formula, and lists the label if the node is compound. -/
def labelStep : Step String → StateM (List String) String
  | .letter c => pure (Label.letter c)
  | .unary op a => list (Label.unary op a)
  | .binary op a b => list (Label.binary op a b)

/-- The columns for a sequence in postorder, started with the given letters. -/
def ofPostorder (ps : List Token) (seeds : List Char) : Except Misfit Columns :=
  let (formula, labels) := (Postorder.fold labelStep ps).run (seeds.map Label.letter)
  formula.map fun formula => { labels, formula }

end Columns

end TruthTable
