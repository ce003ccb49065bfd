/-
# Levels of journal entries

Every entry of the journal has a level, and a threshold says which levels are kept.  The
program makes entries of three levels only, but the threshold can also be set to the two
more urgent ones, which keep none of them, or turned off.
-/

namespace TruthTable.Journal

/-- The level of an entry, from the most to the least urgent. -/
inductive Level where
  | info
  | debug
  | trace
deriving DecidableEq

/-- The name of a level in an entry. -/
def Level.name : Level → String
  | info => "INFO"
  | debug => "DEBUG"
  | trace => "TRACE"

/-- Which entries are kept. -/
inductive Threshold where
  | off
  | error
  | warn
  | info
  | debug
  | trace
deriving DecidableEq

namespace Threshold

/-- Whether entries of a level are kept. -/
def admits : Threshold → Level → Bool
  | off, _ | error, _ | warn, _ => false
  | info, level => level == .info
  | debug, level => level == .info || level == .debug
  | trace, _ => true

/-- The threshold with this name, in capital or small letters. -/
def ofName? (name : String) : Option Threshold :=
  match name.toLower with
  | "off" => some off
  | "error" => some error
  | "warn" => some warn
  | "info" => some info
  | "debug" => some debug
  | "trace" => some trace
  | _ => none

end Threshold

end TruthTable.Journal
