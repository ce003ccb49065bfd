/-
# The program

The command line program.  It writes what `TruthTable.Console` says.  A dialogue is held line
by line, so that every question is on the screen before its line is read.  What ends a run
before its time is also told on the error stream.
-/
import TruthTable.Console.Session

namespace TruthTable.Console

/-- Reads a line with the newline byte that ends it, `before` being its part read so far,
latest byte first. -/
partial def readLine (stdin : IO.FS.Stream) (before : List UInt8) : IO (List UInt8) := do
  match (← stdin.read 1).toList with
  | [] => pure before.reverse
  | b :: _ => if b = newline then pure (b :: before).reverse else readLine stdin (b :: before)

/-- Holds the dialogue with the user. -/
partial def hold (host : Host) (stdin stdout : IO.FS.Stream) : IO Ending := do
  stdout.putStr (prompt host.exitWord)
  stdout.flush
  let line ← readLine stdin []
  if line.isEmpty then pure .finished
  else
    let r := reply host line
    stdout.putStr r.text
    match r.ending? with
    | some ending => pure ending
    | none => hold host stdin stdout

/-- What ends a run before its time. -/
def Ending.complaint? : Ending → Option String
  | finished => none
  | invalidInput => some "Error: stream did not contain valid UTF-8"
  | brokenOff fault => some fault.message

/-- Runs the program with these options. -/
def execute (opts : Options) : IO UInt32 := do
  let stdout ← IO.getStdout
  stdout.putStr (opening opts)
  let ending ←
    if opts.formulas.isEmpty then do
      let ending ← hold (opts.journalHost journalLine) (← IO.getStdin) stdout
      stdout.putStr ending.lastWords
      pure ending
    else do
      -- nothing is read in between, so all reports are written at once
      let r := reports (shown journalLine opts) opts.formulas
      stdout.putStr r.text
      pure r.ending
  ending.complaint?.forM fun complaint => IO.eprintln complaint
  pure ending.status

end TruthTable.Console

open TruthTable.Console in
/-- Runs the program with these arguments. -/
def main (args : List String) : IO UInt32 := do
  match Options.read args with
  | .ok opts => execute opts
  | .error refusal =>
    IO.print refusal.outcome.output
    if refusal = .misuse then IO.eprint usage
    pure refusal.outcome.status
