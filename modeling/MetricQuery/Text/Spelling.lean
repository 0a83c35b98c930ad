import MetricQuery.Text.Case

/-!
# Spellings of parameter names

A parameter of a maker is named by words joined with underscores.  A template may spell the name
with capitals at the seams instead.

## Main definitions

* `words` : the parts of a text between underscores.
* `camel` : the words joined, each but the first in title case.
* `snake` : an underscore before every capital but the first character, all in lower case.
-/

namespace MetricQuery.Text

/-- The parts of a text between underscores. -/
def words (s : List Char) : List (List Char) :=
  s.splitOn '_'

/-- The words of a name joined, each but the first in title case. -/
def camel (s : List Char) : List Char :=
  match words s with
  | [] => []
  | first :: rest => first ++ rest.flatMap titled

/-- Whether `c` is one of the capitals `A` to `Z`. -/
def isCapital (c : Char) : Bool :=
  'A' ≤ c && c ≤ 'Z'

/-- The text with an underscore before each of the capitals `A` to `Z`. -/
def seamed (s : List Char) : List Char :=
  s.flatMap fun c => if isCapital c then ['_', c] else [c]

/-- The text with its capitals, the first character apart, turned into seams between words. -/
def snake (s : List Char) : List Char :=
  match s with
  | [] => []
  | first :: rest => lower (first :: seamed rest)

end MetricQuery.Text
