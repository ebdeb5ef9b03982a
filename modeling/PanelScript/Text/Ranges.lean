/-!
# Ranges of characters

A class of characters past ASCII is given by the ranges of their numbers.

* `CharRanges` is a table of ranges, `CharRanges.has` looks a character up in it.
-/

namespace PanelScript

/-- Ranges of character numbers, both ends included. -/
abbrev CharRanges := List (Nat × Nat)

/-- Whether a character lies in one of the ranges. -/
def CharRanges.has (ranges : CharRanges) (c : Char) : Bool :=
  ranges.any fun (first, last) => first ≤ c.toNat && c.toNat ≤ last

end PanelScript
