/-
# Classes of characters

A class of characters is a list of ranges of code points.

* `Ranges.holds`: whether a character is in one of the ranges.
-/
namespace HttpResource

namespace Text

/-- Ranges of code points, both ends included. -/
abbrev Ranges := List (Nat × Nat)

/-- Whether the character lies in one of the ranges. -/
def Ranges.holds (ranges : Ranges) (c : Char) : Bool :=
  ranges.any fun (low, high) => low ≤ c.toNat && c.toNat ≤ high

end Text

end HttpResource
