/-
# The command line

How a run is asked for by arguments.  Three options take a value, either as the next argument
or in the same argument after an equals sign, and one option takes none.  Each may be given
once, anywhere among the formulas.  What starts with a hyphen is an option, except a single
hyphen, and after `--` every argument is a formula.  Whoever asks for help is told about the
options, and nothing else is done.

These are the usual rules for command lines, and they say nothing about what is done with the
options.  A run is a matter of the options alone (`runWith`), so nothing is built on this module
but the program itself.
-/
import TruthTable.Console.Program

namespace TruthTable.Console

open Journal (Threshold)

/-- Why arguments do not lead to a run. -/
inductive Refusal where
  /-- They ask for help. -/
  | help
  /-- They cannot be read. -/
  | misuse
deriving DecidableEq

namespace Options

/-! ## Reading arguments -/

/-- The options that take a value. -/
inductive Setting where
  | exitWord
  | maxLetters
  | threshold
deriving DecidableEq

/-- The setting with this name. -/
def Setting.ofName? : String → Option Setting
  | "exit-word" => some exitWord
  | "max-vars" => some maxLetters
  | "log-level" => some threshold
  | _ => none

/-- What has been found among the arguments read so far. -/
structure Given where
  /-- The formulas, latest first. -/
  formulas : List String := []
  exitWord : Option String := none
  maxLetters : Option Nat := none
  threshold : Option Threshold := none
  noBanner : Bool := false

/-- Reads a count: decimal digits, with a plus sign in front or none, below `2 ^ 64`. -/
def count? (text : String) : Option Nat :=
  let digits := match text.toList with
    | '+' :: cs => cs
    | cs => cs
  if digits.isEmpty || !digits.all Char.isDigit then none
  else
    let n := digits.foldl (fun n c => 10 * n + (c.toNat - '0'.toNat)) 0
    if n < UInt64.size then some n else none

/-- Sets a value, unless it is set already or does not fit the setting. -/
def Given.set? (g : Given) : Setting → String → Option Given
  | .exitWord, value =>
    if g.exitWord.isSome then none else some { g with exitWord := some value }
  | .maxLetters, value =>
    if g.maxLetters.isSome then none
    else (count? value).map fun n => { g with maxLetters := some n }
  | .threshold, value =>
    if g.threshold.isSome then none
    else (Threshold.ofName? value).map fun t => { g with threshold := some t }

/-- The options that have been given.  The others have their own values. -/
def Given.options (g : Given) : Options :=
  let others : Options := {}
  { formulas := g.formulas.reverse
    exitWord := g.exitWord.getD others.exitWord
    maxLetters := g.maxLetters
    threshold := g.threshold.getD others.threshold
    showBanner := !g.noBanner }

/-- Whether an argument is taken for an option. -/
def isOption (arg : String) : Bool :=
  match arg.toList with
  | '-' :: _ :: _ => true
  | _ => false

/-- Whether an argument is the short option for help, whatever stands behind it. -/
def isShortHelp (arg : String) : Bool :=
  match arg.toList with
  | '-' :: 'h' :: _ => true
  | _ => false

/-- The name of an option and the value after an equals sign, if the argument is a long
option. -/
def named? (arg : String) : Option (String × Option String) :=
  match arg.toList with
  | '-' :: '-' :: cs =>
    let name := String.ofList (cs.takeWhile (· != '='))
    match cs.dropWhile (· != '=') with
    | [] => some (name, none)
    | _ :: value => some (name, some (.ofList value))
  | _ => none

/-- Reads the arguments from the left.  The first one that cannot be read or asks for help
decides. -/
def readFrom (g : Given) : List String → Except Refusal Given
  | [] => .ok g
  | "--" :: rest => .ok { g with formulas := rest.reverse ++ g.formulas }
  | arg :: rest =>
    match named? arg with
    | some ("help", none) => .error .help
    | some ("no-banner", none) =>
      if g.noBanner then .error .misuse else readFrom { g with noBanner := true } rest
    | some (name, value?) =>
      match Setting.ofName? name, value?, rest with
      | some setting, some value, rest =>
        match g.set? setting value with
        | some g => readFrom g rest
        | none => .error .misuse
      | some setting, none, value :: rest =>
        if isOption value then .error .misuse
        else
          match g.set? setting value with
          | some g => readFrom g rest
          | none => .error .misuse
      | _, _, _ => .error .misuse
    | none =>
      if isShortHelp arg then .error .help
      else if isOption arg then .error .misuse
      else readFrom { g with formulas := arg :: g.formulas } rest

/-- The options that the arguments ask for. -/
def read (args : List String) : Except Refusal Options := (readFrom {} args).map Given.options

/-- The options that the arguments ask for, if they ask for a run. -/
def parse? (args : List String) : Option Options := (read args).toOption

example : parse? [] = some {} := by decide

end Options

/-! ## Help -/

/-- What is said about the options. -/
def usage : String :=
  "Truth tables and classification for propositional formulas\n\n" ++
  "Usage: proptable [OPTIONS] [FORMULAS]...\n\n" ++
  "Arguments:\n" ++
  "  [FORMULAS]...  Formulas to evaluate. Without any, formulas are read interactively\n\n" ++
  "Options:\n" ++
  "      --exit-word <EXIT_WORD>  Keyword that ends the interactive loop " ++
    "(\"quit\" always works too) [default: exit]\n" ++
  "      --max-vars <MAX_VARS>    Reject formulas with more distinct propositions than this\n" ++
  "      --log-level <LOG_LEVEL>  Log level: off, error, warn, info, debug, trace " ++
    "[default: warn]\n" ++
  "      --no-banner              Do not print the operator legend on start-up\n" ++
  "  -h, --help                   Print help\n"

/-- What is written and the exit status if there is no run. -/
def Refusal.outcome : Refusal → Outcome
  | help => ⟨usage, 0⟩
  | misuse => ⟨"", 2⟩

/-! ## A run -/

/-- A line of the journal, without the time. -/
def journalLine (e : Journal.Entry) : String := "[" ++ e.level.name ++ "] " ++ e.text ++ "\n"

/-- The run with these arguments. -/
def run (args : List String) (input : List UInt8) : Outcome :=
  match Options.read args with
  | .ok opts => runWith journalLine opts input
  | .error refusal => refusal.outcome

example : run ["A", "--max-vars=2", "--help"] [] = ⟨usage, 0⟩ := rfl

end TruthTable.Console
