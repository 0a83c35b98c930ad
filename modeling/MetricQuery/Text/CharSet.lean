/-!
# Sets of characters

A property of characters that a standard fixes is written as the list of the ranges of code points
that have it, in ascending order, both ends included.

## Main definitions

* `CharSet` : ranges of code points.
* `CharSet.contains` : membership of a character.
-/

namespace MetricQuery.Text

/-- Ranges of code points, both ends included. -/
abbrev CharSet := List (Nat × Nat)

/-- Whether one of the ranges holds the code point of `c`. -/
def CharSet.contains (set : CharSet) (c : Char) : Bool :=
  set.any fun range => range.1 ≤ c.toNat && c.toNat ≤ range.2

end MetricQuery.Text
