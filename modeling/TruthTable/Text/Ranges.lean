/-
# Sets of characters given by ranges

The character properties of the Unicode standard are given as lists of ranges of code
points, each with its first and its last member.
-/

namespace TruthTable.Text

/-- Whether a character lies in one of the ranges. -/
def inRanges (ranges : List (Nat × Nat)) (c : Char) : Bool :=
  ranges.any fun (first, last) => first ≤ c.toNat && c.toNat ≤ last

end TruthTable.Text
