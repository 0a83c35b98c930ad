/-!
# Binary floating-point numbers

The decimal settings of makers and the bounds of predicates are binary floating-point numbers of 64
bits.  Nothing is computed with them beyond rounding, so a number is kept as its sign, mantissa and
exponent, and its value is an exact fraction.

## Main definitions

* `Binary64` : a number of the format, the infinities and the undefined value included.
* `Binary64.value?` : the exact value of a finite number.
* `Binary64.ofRatio` : the number nearest to a fraction, ties to the even mantissa.
* `Binary64.ofDecimal` : the number nearest to a decimal.
-/

namespace MetricQuery

/-- A binary floating-point number of 64 bits.  A finite one is `mantissa * 2 ^ exponent`, with the
mantissa below `2 ^ 53`, and with the least exponent `-1074` unless the mantissa has all 53 bits. -/
inductive Binary64
  | nan
  | infinite (negative : Bool)
  | finite (negative : Bool) (mantissa : Nat) (exponent : Int)
deriving DecidableEq, Repr, Inhabited

namespace Binary64

/-- Zero, or negative zero. -/
def zero (negative : Bool) : Binary64 :=
  finite negative 0 (-1074)

/-- The exact value of a finite number. -/
def value? : Binary64 → Option Rat
  | finite negative mantissa exponent =>
    let magnitude : Rat :=
      if 0 ≤ exponent then mkRat (mantissa * Nat.pow 2 exponent.toNat : Nat) 1
      else mkRat mantissa (Nat.pow 2 (-exponent).toNat)
    some (if negative then -magnitude else magnitude)
  | _ => none

/-! ### Rounding -/

/-- The integer nearest to `num / den`, ties to the even one. -/
def roundRatio (num den : Nat) : Nat :=
  let quotient := num / den
  match compare (2 * (num % den)) den with
  | .lt => quotient
  | .gt => quotient + 1
  | .eq => if quotient % 2 = 0 then quotient else quotient + 1

/-- Numerator and denominator of `num / den` divided by `base ^ power`. -/
def unscale (base num den : Nat) (power : Int) : Nat × Nat :=
  if 0 ≤ power then (num, den * Nat.pow base power.toNat)
  else (num * Nat.pow base (-power).toNat, den)

/-- The greatest exponent `e` with `2 ^ e ≤ num / den`, for a positive fraction. -/
def floorLog2 (num den : Nat) : Int :=
  let estimate : Int := (num.log2 : Int) - den.log2
  let (scaled, unit) := unscale 2 num den estimate
  if unit ≤ scaled then estimate else estimate - 1

/-- The number nearest to a fraction, ties to the even mantissa.  A fraction too large for the
format gives an infinity. -/
def ofRatio (negative : Bool) (num den : Nat) : Binary64 :=
  if num = 0 then zero negative
  else
    let exponent := max (floorLog2 num den - 52) (-1074)
    let (scaled, unit) := unscale 2 num den exponent
    let mantissa := roundRatio scaled unit
    let (mantissa, exponent) :=
      if mantissa = Nat.pow 2 53 then (Nat.pow 2 52, exponent + 1) else (mantissa, exponent)
    if 971 < exponent then infinite negative else finite negative mantissa exponent

/-- The number nearest to a rational. -/
def ofRat (q : Rat) : Binary64 :=
  ofRatio (q.num < 0) q.num.natAbs q.den

/-- The number nearest to `digits * 10 ^ exponent`.  Beyond the reach of the format the answer is
given at once, so a long exponent costs nothing. -/
def ofDecimal (negative : Bool) (digits : Nat) (exponent : Int) : Binary64 :=
  let leading : Int := (Nat.toDigits 10 digits).length + exponent
  if digits = 0 ∨ leading < -400 then zero negative
  else if 400 < leading then infinite negative
  else if 0 ≤ exponent then ofRatio negative (digits * Nat.pow 10 exponent.toNat) 1
  else ofRatio negative digits (Nat.pow 10 (-exponent).toNat)

/-- Negation. -/
def neg : Binary64 → Binary64
  | nan => nan
  | infinite negative => infinite !negative
  | finite negative mantissa exponent => finite (!negative) mantissa exponent

/-- The rounded sum.  Infinities of both signs have none. -/
def add : Binary64 → Binary64 → Binary64
  | infinite negative, infinite negative' => if negative = negative' then infinite negative else nan
  | infinite negative, finite .. => infinite negative
  | finite .., infinite negative => infinite negative
  | x, y =>
    match x.value?, y.value? with
    | some p, some q => ofRat (p + q)
    | _, _ => nan

/-- The rounded product with a positive finite number. -/
def scaleBy (x factor : Binary64) : Binary64 :=
  match x with
  | infinite negative => infinite negative
  | x =>
    match x.value?, factor.value? with
    | some p, some q => ofRat (p * q)
    | _, _ => nan

end Binary64

end MetricQuery
