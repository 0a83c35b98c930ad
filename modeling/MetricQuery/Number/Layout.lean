import MetricQuery.Number.Selection

/-!
# Layout of decimal numbers

Digits and an exponent become text in positional form, or with an exponent where the positional form
would be long.  Two layouts are in use: numbers as values keep a fraction even when it is zero,
numbers inside expressions have at most six digits and no empty fraction.

## Main definitions

* `Layout` : the decisions of a layout.
* `Layout.render` : the text of a decimal.
* `Binary64.text` : a number as a value, with the fewest digits that read back.
* `Binary64.brief` : a number inside an expression, with at most six digits.
-/

namespace MetricQuery

/-- The decisions of a layout.  A number is positional from one ten-thousandth on up to the power of
ten `plainBelow`. -/
structure Layout where
  plainBelow : Int
  /-- Whether an integral positional number ends in `.0`. -/
  pointZero : Bool

namespace Layout

/-- The exponent with its sign and at least two digits. -/
def exponentText (n : Int) : List Char :=
  let digits := Nat.toDigits 10 n.natAbs
  'e' :: (if n < 0 then '-' else '+') :: List.replicate (2 - digits.length) '0' ++ digits

/-- The text of a decimal without its sign. -/
def render (layout : Layout) (d : Decimal) : List Char :=
  let digits := Nat.toDigits 10 d.digits
  let leading : Int := d.exponent + digits.length - 1
  if -4 ≤ leading ∧ leading < layout.plainBelow then
    if 0 ≤ d.exponent then
      digits ++ List.replicate d.exponent.toNat '0' ++ if layout.pointZero then ['.', '0'] else []
    else if 0 ≤ leading then
      digits.take (leading.toNat + 1) ++ '.' :: digits.drop (leading.toNat + 1)
    else
      '0' :: '.' :: List.replicate (-leading - 1).toNat '0' ++ digits
  else
    match digits with
    | [digit] => digit :: exponentText leading
    | first :: rest => first :: '.' :: rest ++ exponentText leading
    | [] => []

end Layout

namespace Binary64

/-- The text of a number whose finite magnitudes are written by `write`. -/
def textBy (write : Nat → Int → List Char) : Binary64 → List Char
  | nan => ['n', 'a', 'n']
  | infinite negative => (if negative then ['-'] else []) ++ ['i', 'n', 'f']
  | finite negative mantissa exponent =>
    (if negative then ['-'] else []) ++ write mantissa exponent

/-- A number as a value: the fewest digits that read back, positional below `10 ^ 16`. -/
def valueLayout : Layout := ⟨16, true⟩

/-- A number inside an expression: positional below `10 ^ 6`. -/
def briefLayout : Layout := ⟨6, false⟩

/-- The text of a number as a value. -/
def text (x : Binary64) : List Char :=
  x.textBy fun mantissa exponent => valueLayout.render (shortest mantissa exponent)

/-- The text of a number inside an expression: six significant digits. -/
def brief (x : Binary64) : List Char :=
  x.textBy fun mantissa exponent => briefLayout.render (significant 6 mantissa exponent)

end Binary64

end MetricQuery
