/-!
# Lines of files

Files end their lines with a line feed, a carriage return, or both.

## Main definitions

* `normalLines` : the text of a file with a line feed at the end of every line.
-/

namespace MetricQuery.Text

/-- The text of a file with a line feed at the end of every line. -/
def normalLines : List Char → List Char
  | '\r' :: '\n' :: rest => '\n' :: normalLines rest
  | '\r' :: rest => '\n' :: normalLines rest
  | c :: rest => c :: normalLines rest
  | [] => []

end MetricQuery.Text
