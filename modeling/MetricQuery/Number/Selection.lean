import MetricQuery.Number.Binary64

/-!
# Selection of decimal digits

A finite binary number is written with few decimal digits.  Two selections are in use: the fewest
digits that read back to the number, and a set count of significant digits.  Both compare exact
natural numbers only.

## Main definitions

* `Decimal` : digits times a power of ten.
* `Binary64.shortest` : the fewest digits that read back, of these the nearest.
* `Binary64.significant` : the value rounded to a count of digits, ties to the even one.
-/

namespace MetricQuery

/-- The decimal `digits * 10 ^ exponent`. -/
structure Decimal where
  digits : Nat
  exponent : Int
deriving DecidableEq, Repr, Inhabited

namespace Decimal

/-- Moves up to `fuel` zeros at the end of the digits into the exponent. -/
def strip : (fuel : Nat) → Decimal → Decimal
  | 0, d => d
  | fuel + 1, d =>
    if d.digits ≠ 0 ∧ d.digits % 10 = 0 then strip fuel ⟨d.digits / 10, d.exponent + 1⟩ else d

end Decimal

namespace Binary64

/-- Compares `digits * 10 ^ power` with `count * 2 ^ exponent`. -/
def compareDecimal (d : Decimal) (count : Nat) (exponent : Int) : Ordering :=
  let left := d.digits * Nat.pow 10 d.exponent.toNat * Nat.pow 2 (-exponent).toNat
  let right := count * Nat.pow 2 exponent.toNat * Nat.pow 10 (-d.exponent).toNat
  compare left right

/-- Whether a decimal rounds to `mantissa * 2 ^ exponent`.  The two ends of the interval of such
decimals lie halfway to the neighbours and belong to it if the mantissa is even; below a power of
two the neighbour is half as far away. -/
def readsBack (mantissa : Nat) (exponent : Int) (d : Decimal) : Bool :=
  let narrow := mantissa = Nat.pow 2 52 ∧ -1074 < exponent
  let low := compareDecimal d (4 * mantissa - if narrow then 1 else 2) (exponent - 2)
  let high := compareDecimal d (4 * mantissa + 2) (exponent - 2)
  if mantissa % 2 = 0 then low != .lt && high != .gt else low == .gt && high == .lt

/-- The least power of ten above `mantissa * 2 ^ exponent`, for a positive mantissa. -/
def decimalScale (mantissa : Nat) (exponent : Int) : Int :=
  let estimate := (exponent + mantissa.log2) * 30103 / 100000
  let above (k : Int) : Bool := compareDecimal ⟨1, k⟩ mantissa exponent == .gt
  ([estimate, estimate + 1].find? above).getD (estimate + 2)

/-- The fraction `mantissa * 2 ^ exponent / 10 ^ power`, as numerator and denominator. -/
def onGrid (mantissa : Nat) (exponent power : Int) : Nat × Nat :=
  let (num, den) := unscale 10 mantissa 1 power
  (num * Nat.pow 2 exponent.toNat, den * Nat.pow 2 (-exponent).toNat)

/-- The decimal on the grid of a power of ten that reads back, if there is one: of the two
neighbours of the value the nearer, of two equally near ones the even. -/
def onGridReadingBack? (mantissa : Nat) (exponent power : Int) : Option Decimal :=
  let (num, den) := onGrid mantissa exponent power
  let below : Decimal := ⟨num / den, power⟩
  let above : Decimal := ⟨num / den + 1, power⟩
  match readsBack mantissa exponent below, readsBack mantissa exponent above with
  | true, true => some ⟨roundRatio num den, power⟩
  | true, false => some below
  | false, true => some above
  | false, false => none

/-- The decimal with the fewest digits that reads back to `mantissa * 2 ^ exponent`.  Seventeen
digits suffice; without them the exact value would be given. -/
def shortest (mantissa : Nat) (exponent : Int) : Decimal :=
  if mantissa = 0 then ⟨0, 0⟩
  else
    let scale := decimalScale mantissa exponent
    let found := (List.range 17).findSome? fun (count : Nat) =>
      onGridReadingBack? mantissa exponent (scale - (count + 1))
    match found with
    | some d => d.strip 17
    | none =>
      ⟨mantissa * Nat.pow 2 exponent.toNat * Nat.pow 5 (-exponent).toNat, min exponent 0⟩

/-- The value `mantissa * 2 ^ exponent` rounded to `count` significant digits. -/
def significant (count mantissa : Nat) (exponent : Int) : Decimal :=
  if mantissa = 0 then ⟨0, 0⟩
  else
    let power := decimalScale mantissa exponent - count
    let (num, den) := onGrid mantissa exponent power
    Decimal.strip (count + 1) ⟨roundRatio num den, power⟩

end Binary64

end MetricQuery
