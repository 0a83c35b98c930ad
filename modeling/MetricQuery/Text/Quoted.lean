import MetricQuery.Text.Digit
import MetricQuery.Text.Printable

/-!
# Quoted literals

A text is embedded in an expression or in a message as a quoted literal.  The literal stands between
single quotes, or between double quotes when the text holds single quotes and no double ones.
Inside it a backslash announces an escape: the backslash itself, the enclosing quote, three short
forms, and hexadecimal forms of two, four and eight digits for what is not printable.

## Main definitions

* `Quoted.mark` : the enclosing quote of a text.
* `Quoted.encode` : the literal of a text.
-/

namespace MetricQuery.Text.Quoted

/-- The quote that encloses a text: the double one only where it saves escapes. -/
def mark (s : List Char) : Char :=
  if s.contains '\'' && !s.contains '"' then '"' else '\''

/-- The hexadecimal escape of a character, in the least of the three widths that holds it. -/
def hexEscape (c : Char) : List Char :=
  if c.toNat ≤ 0xFF then '\\' :: 'x' :: hexDigits 2 c.toNat
  else if c.toNat ≤ 0xFFFF then '\\' :: 'u' :: hexDigits 4 c.toNat
  else '\\' :: 'U' :: hexDigits 8 c.toNat

/-- A character inside a literal enclosed by `quote`. -/
def escape (quote c : Char) : List Char :=
  if c = '\\' ∨ c = quote then ['\\', c]
  else if c = '\n' then ['\\', 'n']
  else if c = '\r' then ['\\', 'r']
  else if c = '\t' then ['\\', 't']
  else if isPrintable c then [c]
  else hexEscape c

/-- The literal of a text. -/
def encode (s : List Char) : List Char :=
  mark s :: s.flatMap (escape (mark s)) ++ [mark s]

end MetricQuery.Text.Quoted

namespace String

/-- The text as a quoted literal. -/
def quotedLiteral (s : String) : String :=
  ofList (MetricQuery.Text.Quoted.encode s.toList)

end String
