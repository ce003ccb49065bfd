/-
# The dialogue

The program asks for a formula, reads a line, and answers it, until the line is an exit word
or there are no more lines.  Blank lines are passed over.

The input is a sequence of bytes.  A line ends with a newline byte or at the end of the
input.  A line that is not valid UTF-8 ends the dialogue, and no later line is looked at.
An answer that is broken off ends it as well.

What follows a single line is a function of that line (`reply`).  A dialogue about lines that
are there already (`converse`) and one that waits for each of its lines do the same with it.
-/
import TruthTable.Console.Options
import TruthTable.Console.Report
import TruthTable.Text.LowerCase

namespace TruthTable.Console

/-! ## Texts of lines -/

/-- A word without its surrounding blanks and in lower case. -/
def normalized (word : String) : List Char := Text.lower (Text.trim word.toList)

/-- Whether a line ends the dialogue.  The word `quit` always does. -/
def isExit (exitWord line : String) : Bool :=
  normalized line == normalized exitWord || normalized line == "quit".toList

/-- Whether a line holds nothing but blanks. -/
def isBlankLine (line : String) : Bool := (Text.trim line.toList).isEmpty

/-- The question for the next formula. -/
def prompt (exitWord : String) : String :=
  "\nEnter a propositional formula (or '" ++ exitWord ++ "'): "

/-! ## Bytes of lines -/

/-- The byte that ends a line. -/
def newline : UInt8 := 10

/-- Puts a byte before some lines. -/
def consByte (b : UInt8) (lines : List (List UInt8)) : List (List UInt8) :=
  if b = newline then [b] :: lines
  else
    match lines with
    | [] => [[b]]
    | line :: lines => (b :: line) :: lines

/-- The lines of an input, each with the newline byte that ends it. -/
def lines (input : List UInt8) : List (List UInt8) := input.foldr consByte []

/-- The text of a line, if it is valid UTF-8. -/
def decode? (line : List UInt8) : Option String := String.fromUTF8? ⟨line.toArray⟩

/-! ## One line -/

/-- How a dialogue ends. -/
inductive Ending where
  | finished
  | invalidInput
  | brokenOff (fault : Fault)
deriving DecidableEq

/-- What follows a line. -/
inductive Reply where
  /-- The dialogue goes on after this report, unless it is broken off. -/
  | answer (r : Report)
  /-- The dialogue is over. -/
  | stop
  /-- The line cannot be read. -/
  | invalid
deriving DecidableEq

namespace Reply

/-- What is written. -/
def text : Reply → String
  | answer r => r.text
  | stop | invalid => ""

/-- How the dialogue ends, unless it goes on. -/
def ending? : Reply → Option Ending
  | answer r => r.fault.map .brokenOff
  | stop => some .finished
  | invalid => some .invalidInput

end Reply

/-- The program's part in a dialogue. -/
structure Host where
  /-- The word that ends the dialogue. -/
  exitWord : String
  /-- What is written about a text. -/
  answer : String → Report

/-- What follows this line. -/
def reply (host : Host) (line : List UInt8) : Reply :=
  match decode? line with
  | none => .invalid
  | some text =>
    if isBlankLine text then .answer { text := "" }
    else if isExit host.exitWord text then .stop
    else .answer (host.answer text)

/-! ## All lines -/

/-- What a dialogue writes, and how it ends. -/
structure Transcript where
  output : String
  ending : Ending
deriving DecidableEq

/-- The dialogue about these lines. -/
def converse (host : Host) : List (List UInt8) → Transcript
  | [] => ⟨prompt host.exitWord, .finished⟩
  | line :: rest =>
    let r := reply host line
    match r.ending? with
    | some ending => ⟨prompt host.exitWord ++ r.text, ending⟩
    | none =>
      let later := converse host rest
      ⟨prompt host.exitWord ++ r.text ++ later.output, later.ending⟩

/-- A host that answers with the report on a formula. -/
def Options.host (opts : Options) : Host := ⟨opts.exitWord, block opts.maxLetters⟩

/-- The dialogue about this input. -/
def dialogue (opts : Options) (input : List UInt8) : Transcript :=
  converse opts.host (lines input)

end TruthTable.Console
