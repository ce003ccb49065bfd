/-
# A run of the program

The program reports on the formulas of its options, or, if there are none, it holds a
dialogue.  A report that is broken off ends it.

The journal appears where the reports appear.  What is noted about a formula is noted before
anything is written about it, so its entries come first, as far as the threshold keeps them.
How an entry looks is not for the program to say, since its line also bears the time, for
instance.  It is the parameter `record`.
-/
import TruthTable.Console.Dialogue
import TruthTable.Journal

namespace TruthTable.Console

/-- The explanation of the connectives that is shown first. -/
def banner : String :=
  "=== Propositional Formula Tables ===\n" ++
  "Supported operators:\n" ++
  "~   = negation\n" ++
  "&   = and (conjunction)\n" ++
  "|   = or (disjunction)\n" ++
  "^   = exclusive or (xor)\n" ++
  "->  = conditional\n" ++
  "<-> = biconditional\n" ++
  "Example: (A->B)<->(~B->~A) or (A^B)\n" ++
  separator

/-- What is shown before anything else. -/
def opening (opts : Options) : String := if opts.showBanner then banner else ""

/-! ## The journal on the screen -/

section

variable (record : Journal.Entry → String) (opts : Options)

/-- The lines of the journal about a formula. -/
def notes (formula : String) : String :=
  String.join ((Journal.keep opts.threshold (Journal.ofReport opts.maxLetters formula)).map record)

/-- What appears about a formula. -/
def shown (formula : String) : Report :=
  { text := notes record opts formula } ++ block opts.maxLetters formula

/-- A host whose journal appears with its answers. -/
def Options.journalHost : Host := { opts.host with answer := shown record opts }

end

/-! ## Endings -/

/-- The last words of a dialogue that was not broken off. -/
def farewell : String := "\nThanks for using proptable!\n"

/-- The exit status after a fault. -/
def brokenOffStatus : UInt32 := 101

namespace Ending

/-- What is written when a dialogue has ended in this way. -/
def lastWords : Ending → String
  | finished => farewell
  | invalidInput | brokenOff _ => ""

/-- The exit status of a program that ends in this way. -/
def status : Ending → UInt32
  | finished => 0
  | invalidInput => 1
  | brokenOff _ => brokenOffStatus

end Ending

/-- How a program ends with this report. -/
def Report.ending (r : Report) : Ending := r.fault.elim .finished .brokenOff

/-! ## The whole run -/

/-- What a run of the program writes, and its exit status. -/
structure Outcome where
  output : String
  status : UInt32
deriving DecidableEq

/-- The run with these options. -/
def runWith (record : Journal.Entry → String) (opts : Options) (input : List UInt8) : Outcome :=
  if opts.formulas.isEmpty then
    let t := converse (opts.journalHost record) (lines input)
    ⟨opening opts ++ t.output ++ t.ending.lastWords, t.ending.status⟩
  else
    let r := reports (shown record opts) opts.formulas
    ⟨opening opts ++ r.text, r.ending.status⟩

end TruthTable.Console
