/-
# Options

What a run of the program is asked for, in whatever way this is said.
-/
import TruthTable.Journal.Level

namespace TruthTable.Console

open Journal (Threshold)

/-- What a run is asked for.  The values given here hold unless others are asked for. -/
structure Options where
  /-- The formulas to report on.  If there are none, they are asked for. -/
  formulas : List String := []
  /-- The word that ends the dialogue. -/
  exitWord : String := "exit"
  /-- The greatest number of distinct letters in a formula. -/
  maxLetters : Option Nat := none
  /-- Which entries of the journal are shown. -/
  threshold : Threshold := .warn
  showBanner : Bool := true
deriving DecidableEq

end TruthTable.Console
