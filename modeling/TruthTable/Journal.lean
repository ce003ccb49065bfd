/-
# The journal

What the stages of the work note down about their inputs and results.  Every stage is a
function that returns what there is to note, so the journal is computed from the stages
and no stage has to keep one.

The evaluation of a row is noted only for formulas of one letter.  Its entry lists the
assignment, and an assignment of several letters is kept in a hash map, which lists them in
no fixed order.  So there is no one text for such an entry, and it is left out.
-/
import TruthTable.Journal.Level
import TruthTable.Table
import TruthTable.Text.Quoted
import TruthTable.Token.Lexer
import TruthTable.Token.WellFormed

namespace TruthTable.Journal

open Postorder (Misfit)

/-- An entry of the journal. -/
structure Entry where
  level : Level
  text : String
deriving DecidableEq

/-- A text in quotes. -/
def quoted (s : String) : String := .ofList (Text.quoted s.toList)

/-- The entry about a text that was read as tokens. -/
def ofTokens (s : String) (ts : List Token) : List Entry :=
  [⟨.debug, "tokenize(" ++ quoted s ++ ") -> " ++ toString ts.length ++ " tokens"⟩]

/-- The entry about a rejected sequence.  Nothing is noted if its only flaw is a parenthesis
that was not closed. -/
def ofRejection : Token.Rejection → List Entry
  | .empty => [⟨.debug, "is_well_formed: empty sequence"⟩]
  | .badEnds first last =>
    [⟨.debug, "is_well_formed: bad first (" ++ first.text ++ ") or last (" ++ last.text ++
      ") token"⟩]
  | .unmatched i => [⟨.debug, "is_well_formed: unmatched ')' at " ++ toString i⟩]
  | .badPair t next i =>
    [⟨.debug, "is_well_formed: '" ++ t.text ++ "' cannot be followed by '" ++ next.text ++
      "' at " ++ toString i⟩]
  | .unclosed _ => []

/-- The entries about the check of a sequence. -/
def ofCheck (ts : List Token) : List Entry :=
  (Token.diagnose ts).elim [] ofRejection

/-- The entry about a sequence that is not the postorder of a formula.  Nothing is noted of
a missing operand. -/
def ofMisfit : Misfit → List Entry
  | .parenthesis => [⟨.debug, "collapse: parenthesis in postfix sequence"⟩]
  | .missingOperand => []
  | .leftOver count => [⟨.debug, "collapse: " ++ toString count ++ " dangling operands"⟩]

/-- The entry about a row of a formula in the single letter `c`. -/
def ofRow (c : Char) (formula : String) (row : List Bool) : List Entry :=
  match row.head?, row.getLast? with
  | some input, some value =>
    [⟨.trace, "evaluate_row(\x7b'" ++ c.toString ++ "': " ++ toString input ++ "\x7d): " ++
      formula ++ " = " ++ toString value⟩]
  | _, _ => []

/-- The entries about the rows of a table. -/
def ofRows (t : Table) : List Entry :=
  match t.letters with
  | [c] => t.rows.flatMap (ofRow c t.formula)
  | _ => []

/-- The entries about the table of a sequence in postorder. -/
def ofPostorder (ps : List Token) (letters : List Char) : List Entry :=
  match Columns.ofPostorder ps letters with
  | .error misfit => ofMisfit misfit
  | .ok cols =>
    [⟨.debug, "build_catalog: " ++ toString cols.size ++ " columns, formula = " ++ cols.formula⟩,
      ⟨.debug, "generate_table: " ++ toString letters.length ++ " propositions, " ++
        toString cols.size ++ " columns, " ++ toString (Table.rowCount letters) ++ " rows"⟩] ++
    match Table.ofPostorder ps letters with
    | .error _ => []
    | .ok t =>
      ofRows t ++ [⟨.debug, "generate_table: " ++ t.formula ++ " is a " ++ t.verdict.name⟩]

/-- The entries about the table of a sequence. -/
def ofTable (ts : List Token) : List Entry :=
  match Token.letters ts, Postorder.ofTokens? ts with
  | [], _ | _, none => []
  | letters, some ps =>
    ⟨.debug, "to_postfix: " ++ toString ts.length ++ " tokens -> " ++ toString ps.length ++
      " tokens"⟩ :: ofPostorder ps letters

/-- The entries about a formula that is read, checked and tabulated, whatever the check
says. -/
def ofFormula (s : String) : List Entry :=
  match Token.tokenize s with
  | .error _ => []
  | .ok ts => ofTokens s ts ++ ofCheck ts ++ ofTable ts

/-- The entries about a formula that is reported on: its table is made only if it is
well-formed and has no more letters than allowed. -/
def ofReport (limit : Option Nat) (s : String) : List Entry :=
  ⟨.info, "Processing formula " ++ .ofList (Text.quoted (Text.trim s.toList))⟩ ::
    match Token.tokenize s with
    | .error _ => []
    | .ok ts =>
      ofTokens s ts ++ ofCheck ts ++
        if Token.isWellFormed ts && limit.all ((Token.letters ts).length ≤ ·) then ofTable ts
        else []

/-- The entries that a threshold keeps. -/
def keep (threshold : Threshold) (entries : List Entry) : List Entry :=
  entries.filter (threshold.admits ·.level)

end TruthTable.Journal
