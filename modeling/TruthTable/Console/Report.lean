/-
# The report on one formula

What the program writes about one formula: its table, or the reason why there is none.  A
fault is not reported.  It breaks off the writing, and whatever would come later.
-/
import TruthTable.Table.Layout
import TruthTable.Token.Lexer
import TruthTable.Token.WellFormed

namespace TruthTable.Console

/-- What is written, and the fault that breaks it off, if there is one. -/
structure Report where
  text : String
  fault : Option Fault := none
deriving DecidableEq

/-- One report after another. -/
def Report.append (r later : Report) : Report :=
  if r.fault.isSome then r else { text := r.text ++ later.text, fault := later.fault }

instance : Append Report := ⟨Report.append⟩

/-- The line about a formula that has no table. -/
def errorLine (reason : String) : String := "Error: " ++ reason ++ "\n"

/-- The line about a sequence of tokens that is no formula. -/
def notWellFormed : String :=
  errorLine "formula is not well-formed. Check the parentheses and operators."

/-- The report on a formula that may have at most `limit` distinct letters. -/
def report (limit : Option Nat) (formula : String) : Report :=
  match Token.tokenize formula with
  | .error e => { text := errorLine e.message }
  | .ok ts =>
    if Token.isWellFormed ts then
      match Table.ofTokensWithin limit ts with
      | .error (.error e) => { text := errorLine e.message }
      | .error (.fault fault) => { text := "", fault }
      | .ok table =>
        -- the empty line is written before the table is laid out
        match table.render with
        | .ok text => { text := "\n" ++ text }
        | .error fault => { text := "\n", fault }
    else { text := notWellFormed }

/-- The line between reports. -/
def separator : String := "------------------------------------------\n"

/-- A report with the line that closes it. -/
def block (limit : Option Nat) (formula : String) : Report :=
  report limit formula ++ { text := separator }

/-- What is written about several formulas, if `answer` is what is written about one. -/
def reports (answer : String → Report) (formulas : List String) : Report :=
  (formulas.map answer).foldr (· ++ ·) { text := "" }

end TruthTable.Console
