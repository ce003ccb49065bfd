/-
# The layout of a printed table

All columns have the same width, two more than the longest label and at least four.  Each
label and each value stands at the left of its column.  No line ends in blanks.

The cells are padded to the width of the columns, and there is a greatest width to which a
text can be padded.  A table with wider columns cannot be printed.
-/
import TruthTable.Table
import TruthTable.Text.Blank

namespace TruthTable.Table

/-- The common width of all columns, in characters. -/
def columnWidth (labels : List String) : Nat :=
  max 4 ((labels.map String.length).foldl max 0 + 2)

/-- The greatest width to which a text can be padded. -/
def maxWidth : Nat := UInt16.size - 1

/-- A line of cells, each at the left of its column. -/
def line (width : Nat) (cells : List String) : String :=
  .ofList (Text.trimEnd (cells.flatMap (·.toList.rightpad width ' '))) ++ "\n"

/-- The cell for a truth value. -/
def valueCell (value : Bool) : String := if value then "1" else "0"

/-- The text of a table: a heading, the labels, the rows and the verdict. -/
def layout (t : Table) : String :=
  let width := columnWidth t.columns.labels
  "--- Truth Table ---\n" ++ line width t.columns.labels ++
    .join (t.rows.map fun row => line width (row.map valueCell)) ++
    "\nClassification: " ++ t.verdict.name ++ "\n"

/-- Whether the columns are too wide for padding. -/
def tooWide (t : Table) : Bool := maxWidth < columnWidth t.columns.labels

/-- The printed table. -/
def render (t : Table) : Except Fault String :=
  if t.tooWide then .error .tooWide else .ok t.layout

end TruthTable.Table
