/-
# Truth tables

A truth table of a formula with `n` letters has `2 ^ n` rows, one for each assignment.
The rows come in the order of counting: row `i` gives the `j`-th letter bit `n - 1 - j`
of `i`, so the first letter varies slowest and the first row is false throughout.

A table is made of any token sequence.  The errors are looked for in a fixed order: too
many letters, no letters, unbalanced parentheses, operators and operands that do not
combine.
-/
import TruthTable.Postorder
import TruthTable.Row
import TruthTable.Verdict

namespace TruthTable

/-- A complete truth table. -/
structure Table where
  /-- The letters of the formula, in increasing order. -/
  letters : List Char
  columns : Columns
  /-- The values of each row, in column order. -/
  rows : List (List Bool)
  /-- The verdict on the formula. -/
  verdict : Verdict
deriving DecidableEq

open Postorder (Misfit)

namespace Table

/-- The label of the whole formula. -/
def formula (t : Table) : String := t.columns.formula

/-- The values in the column with this label, from top to bottom. -/
def column? (t : Table) (label : String) : Option (List Bool) :=
  (t.columns.position? label).bind fun j => t.rows.mapM (·[j]?)

/-- The last value of every row. -/
def lastValues (rows : List (List Bool)) : List Bool := rows.filterMap List.getLast?

/-- The values of the whole formula, from top to bottom. -/
def finalColumn (t : Table) : List Bool := lastValues t.rows

/-- The assignment of row `i` to these letters. -/
def assignment (letters : List Char) (i : Nat) : Assignment := fun c =>
  (letters.idxOf? c).map fun j => i.testBit (letters.length - 1 - j)

/-- The number of rows of a table with these letters. -/
def rowCount (letters : List Char) : Nat := 1 <<< letters.length

/-- The row number `i` of a table. -/
def rowValues (ps : List Token) (letters : List Char) (cols : Columns) (i : Nat) :
    Except Failure (List Bool) := do
  let row ← Row.evaluate ps (assignment letters i)
  (row.project cols).mapError .fault

/-- The table of a sequence in postorder with these letters. -/
def ofPostorder (ps : List Token) (letters : List Char) : Except Failure Table := do
  let columns ← (Columns.ofPostorder ps letters).mapError Misfit.failure
  let rows ← (List.range (rowCount letters)).mapM (rowValues ps letters columns)
  pure { letters, columns, rows, verdict := .ofValues (lastValues rows) }

/-- The table of a token sequence. -/
def ofTokens (ts : List Token) : Except Failure Table :=
  let letters := Token.letters ts
  if letters.isEmpty then .error (.error .noLetters)
  else do
    let ps ← (Postorder.ofTokens ts).mapError .error
    ofPostorder ps letters

/-- The table of a token sequence that has no more distinct letters than allowed. -/
def ofTokensWithin (limit : Option Nat) (ts : List Token) : Except Failure Table :=
  let found := (Token.letters ts).length
  match limit with
  | none => ofTokens ts
  | some limit =>
    if limit < found then .error (.error (.tooManyLetters found limit)) else ofTokens ts

end Table

end TruthTable
