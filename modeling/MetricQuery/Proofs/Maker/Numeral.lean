import MetricQuery.Maker.Class
import MetricQuery.Proofs.Maker.Dependencies
import MetricQuery.Proofs.Maker.Signature
import MetricQuery.Proofs.Number.Selection

/-!
# Numbers in expressions

The constant of a metric and the scale of a ratio are read as binary numbers, which hold every whole
number up to `2 ^ 53`, and are written with six significant digits.  So a whole number stands in an
expression as it was set only if nothing but zeros stand behind its first six digits
(`roundedTo_eq_self_iff`); any other is rounded.

## Main results

* `Maker.expression_constant` : the expression of a constant.
* `Maker.build_ratio` : the maker of a ratio with a literal scale.
* `Maker.ratioExpression_eq_ok` : the expression of a ratio with a scale other than one.
* `Maker.make_roundedTo` : the whole numbers in the expressions of constants and ratios.
-/

namespace MetricQuery

theorem Scalar.denotation_float {x : Binary64} {q : ℚ} (hx : x.value? = some q) :
    Scalar.denotation (.float x) = .number q := by
  cases x with
  | nan => simp [Binary64.value?] at hx
  | infinite negative => simp [Binary64.value?] at hx
  | finite negative mantissa exponent => simp [Scalar.denotation, hx]

namespace Maker

variable {n : Int} {terms : Terms} {scale x : Binary64}

/-- The expression of a constant. -/
theorem expression_constant {literal : String}
    (hx : Literal.readBinary64? literal.toList = some x) :
    constant.expression terms [.text literal] =
      .ok ("constant(" ++ String.ofList x.brief ++ ")") := by
  have hread : (Datum.text literal).readNumber = .ok x := by simp [Datum.readNumber, hx]
  exact Except.bind_eq_ok_iff.2 ⟨x, hread, rfl⟩

/-- The maker of a ratio whose scale is set to a literal number. -/
theorem build_ratio {t : Template} {literal : String} (ht : t.literal? "scale" = some literal)
    (hx : Literal.readBinary64? literal.toList = some x) :
    MakerClass.ratio.build t = .ok (ratio x) := by
  have hscale : t.argument MakerClass.ratio.name ⟨"scale", .float, false⟩ = .ok (some x) := by
    simp [Template.argument, Template.value?, Template.given, ht, Param.float, hx]
  have hargs : t.arguments MakerClass.ratio.name MakerClass.ratio.parameters =
      .ok (.cons () (.cons (some x) .nil)) :=
    Template.arguments_cons_eq_ok_iff.2
      ⟨_, _, rfl, Template.arguments_cons_eq_ok_iff.2 ⟨_, _, hscale, rfl, rfl⟩, rfl⟩
  exact Except.bind_eq_ok_iff.2 ⟨_, hargs, rfl⟩

/-- The expression of a ratio with a scale other than one. -/
theorem ratioExpression_eq_ok {numerator denominator : Datum} {a b : Metric}
    (ha : terms.metric numerator = .ok a) (hb : terms.metric denominator = .ok b)
    (hscale : scale.value? = some (n : ℚ)) (hn : n ≠ 1) :
    ratioExpression scale terms numerator denominator =
      .ok (s!"({a.name.written} / {b.name.written})" ++ " * " ++ String.ofList scale.brief) := by
  have hone : (Scalar.float scale == .int 1) = false := by
    rw [← Bool.not_eq_true, Scalar.beq_iff, Scalar.denotation_float hscale]
    intro hdenotation
    have hcast : (n : ℚ) = (1 : Int) := Denotation.number.inj hdenotation
    exact hn (by exact_mod_cast hcast)
  refine Except.bind_eq_ok_iff.2 ⟨a, ha, Except.bind_eq_ok_iff.2 ⟨b, hb, ?_⟩⟩
  simp [hone, pure, Except.pure]

/-- **Whole numbers in expressions.**  Let a whole number up to `2 ^ 53` be the constant of a metric
or, other than one, the scale of a ratio.  It is read without loss, and the numeral in the
expression spells the number rounded to six significant digits.  That is the number itself exactly
if at most six digits stand before the zeros at its end, and differs from it by at most one part in
two hundred thousand otherwise. -/
theorem make_roundedTo (hn : n.natAbs ≤ 2 ^ 53) :
    (∃ numeral, Literal.Spells numeral (roundedTo 6 n) ∧
      ∀ terms name, constant.make terms name [.text (toString n)] =
        .ok (.make name ("constant(" ++ numeral ++ ")") "" "General" [.text (toString n)])) ∧
    (∀ t : Template, t.literal? "scale" = some (toString n) →
      ∃ scale, MakerClass.ratio.build t = .ok (ratio scale) ∧ scale.value? = some (n : ℚ)) ∧
    (n ≠ 1 → ∀ scale : Binary64, scale.value? = some (n : ℚ) →
      ∃ numeral, Literal.Spells numeral (roundedTo 6 n) ∧
        ∀ (terms : Terms) (name : Scalar) (numerator denominator : String) (a b : Metric),
          terms.metric (.text numerator) = .ok a → terms.metric (.text denominator) = .ok b →
          (ratio scale).make terms name [.text numerator, .text denominator] =
            .ok (.make name (s!"({a.name.written} / {b.name.written})" ++ " * " ++ numeral) ""
              "General" [.text numerator, .text denominator])) ∧
    (roundedTo 6 n = n ↔ ∃ (m : Int) (k : Nat), m.natAbs < 10 ^ 6 ∧ n = m * 10 ^ k) ∧
    2 * 10 ^ 5 * |roundedTo 6 n - n| ≤ |n| := by
  obtain ⟨x, hx, hvalue⟩ := Binary64.exists_readBinary64?_toString hn
  refine ⟨⟨String.ofList x.brief, Binary64.spells_brief hvalue hn, ?_⟩, ?_, ?_,
    roundedTo_eq_self_iff, roundedTo_near 5 n⟩
  · intro terms name
    have hmake : constant.make terms name ([toString n].map Datum.text) = .ok _ :=
      make_eq_ok_iff.2 ⟨rfl, _, expression_constant hx, rfl⟩
    exact hmake
  · intro t ht
    exact ⟨x, build_ratio ht hx, hvalue⟩
  · intro hone scale hscale
    refine ⟨String.ofList scale.brief, Binary64.spells_brief hscale hn, ?_⟩
    intro terms name numerator denominator a b ha hb
    have hmake : (ratio scale).make terms name ([numerator, denominator].map Datum.text) = .ok _ :=
      make_eq_ok_iff.2 ⟨rfl, _, ratioExpression_eq_ok ha hb hscale hone, rfl⟩
    exact hmake

/-- A constant of seven digits is rounded to six. -/
theorem make_roundedTo_sevenDigits :
    constant.make addedAndPage (.text "many") [.text (toString (1234567 : Int))] =
        .ok ⟨.text "many", "constant(1.23457e+06)", "", "General", [.text "1234567"]⟩ ∧
      Literal.Spells "1.23457e+06" 1234570 ∧ ¬Literal.Spells "1.23457e+06" 1234567 := by
  have hspells : Literal.Spells "1.23457e+06" 1234570 := by decide +kernel
  refine ⟨rfl, hspells, fun h => ?_⟩
  have hvalue := Option.some.inj (hspells.symm.trans h)
  norm_num at hvalue

/-- The greatest whole number as a constant and as the scale of a template. -/
theorem make_roundedTo_limit :
    let n : Int := 9007199254740992
    let t : Template := ⟨"many", "RatioMaker", [("scale", "9007199254740992")]⟩
    n.natAbs ≤ 2 ^ 53 ∧ roundedTo 6 n = 9007200000000000 ∧
      (∃ numeral, Literal.Spells numeral 9007200000000000 ∧
        constant.make addedAndPage (.text "many") [.text "9007199254740992"] =
          .ok ⟨.text "many", "constant(" ++ numeral ++ ")", "", "General",
            [.text "9007199254740992"]⟩) ∧
      ∃ scale numeral, MakerClass.ratio.build t = .ok (ratio scale) ∧
        Literal.Spells numeral 9007200000000000 ∧
        (ratio scale).make addedAndPage (.text "many") [.text "added", .text "Added"] =
          .ok ⟨.text "many", "(added / added)" ++ " * " ++ numeral, "", "General",
            [.text "added", .text "Added"]⟩ := by
  intro n t
  have hn : n.natAbs ≤ 2 ^ 53 := by decide
  have hrounded : roundedTo 6 n = 9007200000000000 := by decide +kernel
  obtain ⟨⟨numeral, hspells, hconstant⟩, hbuild, hratio, -⟩ := make_roundedTo hn
  obtain ⟨scale, hscale, hvalue⟩ := hbuild t rfl
  obtain ⟨numeral', hspells', hmake⟩ := hratio (by decide) scale hvalue
  rw [hrounded] at hspells hspells'
  refine ⟨hn, hrounded, ⟨numeral, hspells, hconstant _ _⟩, scale, numeral', hscale, hspells', ?_⟩
  exact hmake addedAndPage (.text "many") "added" "Added" _ _ rfl rfl

end Maker

end MetricQuery
