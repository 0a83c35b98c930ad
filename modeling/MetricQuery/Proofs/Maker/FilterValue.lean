import MetricQuery.Proofs.Maker.Spelling
import MetricQuery.Proofs.Text.Quoted

/-!
# Values in restricted metrics

A metric that is restricted to a dimension with a value holds the value in its expression, as a
quoted literal in front of the closing bracket.  The literal is read back from there
(`Quoted.decode_encode`), so the value is found in the expression and different values are told
apart, whatever characters they hold.

## Main definitions

* `Maker.restrictedHead` : the expression up to the value.

## Main results

* `Maker.expression_filteredAggregation` : the expression of a restricted metric.
* `Maker.make_filterValue` : the value in the expression.
-/

namespace MetricQuery

open Text

namespace Maker

/-- The expression of a metric that is restricted to a dimension, up to the value. -/
def restrictedHead (metric : Metric) (dimension : Dimension) : String :=
  let aggregate := if metric.expression = "" then metric.name.written else metric.expression
  s!"filtered({aggregate}, {dimension.apiName} == "

section Restricted

variable {terms : Terms} {metricName dimensionName : String} {metric : Metric}
  {dimension : Dimension}

theorem expression_filteredAggregation (hmetric : terms.metrics.get? metricName = some metric)
    (hdimension : terms.dimensions.get? dimensionName = some dimension) (value : String) :
    filteredAggregation.expression terms ([metricName, dimensionName, value].map Datum.text) =
      .ok (restrictedHead metric dimension ++ value.quotedLiteral ++ ")") := by
  have hfound := Terms.metric_text_eq_ok_iff.2 hmetric
  have hfound' := Terms.dimension_text_eq_ok_iff.2 hdimension
  exact Except.bind_eq_ok_iff.2 ⟨metric, hfound, Except.bind_eq_ok_iff.2 ⟨dimension, hfound', rfl⟩⟩

/-- The expression of a restricted metric that has been made. -/
theorem expression_of_make_filteredAggregation
    (hmetric : terms.metrics.get? metricName = some metric)
    (hdimension : terms.dimensions.get? dimensionName = some dimension) {name : Scalar}
    {value : String} {made : Metric}
    (h : filteredAggregation.make terms name
      ([metricName, dimensionName, value].map Datum.text) = .ok made) :
    made.expression = restrictedHead metric dimension ++ value.quotedLiteral ++ ")" := by
  obtain ⟨-, e, he, rfl⟩ := make_eq_ok_iff.1 h
  rw [expression_filteredAggregation hmetric hdimension] at he
  exact (Except.ok.inj he).symm

/-- **The value of a restricted metric.**  For any metric and dimension that the glossaries hold and
any value, the restricted metric is made, and in its expression a literal stands between the part
that does not depend on the value and the closing bracket.  From the literal, whatever follows it,
the value is read back, and the reading ends right behind the literal; it ends nowhere before.  So
different values make different expressions. -/
theorem make_filterValue (hmetric : terms.metrics.get? metricName = some metric)
    (hdimension : terms.dimensions.get? dimensionName = some dimension) (name : Scalar) :
    (∀ value : String, ∃ made literal,
      filteredAggregation.make terms name ([metricName, dimensionName, value].map Datum.text) =
        .ok made ∧
      made.expression = restrictedHead metric dimension ++ literal ++ ")" ∧
      (∀ behind, Quoted.decode (literal.toList ++ behind) = some (value.toList, behind)) ∧
      ∀ front, front <+: literal.toList → front ≠ literal.toList → Quoted.decode front = none) ∧
    ∀ (value value' : String) (made made' : Metric),
      filteredAggregation.make terms name ([metricName, dimensionName, value].map Datum.text) =
        .ok made →
      filteredAggregation.make terms name ([metricName, dimensionName, value'].map Datum.text) =
        .ok made' →
      made.expression = made'.expression → value = value' := by
  constructor
  · intro value
    have hread (behind : List Char) :
        Quoted.decode (value.quotedLiteral.toList ++ behind) = some (value.toList, behind) := by
      rw [String.quotedLiteral, String.toList_ofList, Quoted.decode_encode]
    have hmake : filteredAggregation.make terms name
        ([metricName, dimensionName, value].map Datum.text) = .ok _ :=
      make_eq_ok_iff.2 ⟨rfl, _, expression_filteredAggregation hmetric hdimension value, rfl⟩
    refine ⟨_, value.quotedLiteral, hmake, rfl, hread, fun front => ?_⟩
    have hend := hread []
    rw [List.append_nil] at hend
    exact Quoted.decode_of_prefix hend
  · intro value value' made made' hmade hmade' hsame
    rw [expression_of_make_filteredAggregation hmetric hdimension hmade,
      expression_of_make_filteredAggregation hmetric hdimension hmade', String.append_left_inj,
      String.append_right_inj] at hsame
    exact String.toList_injective (Quoted.encode_injective (String.ofList_injective hsame))

end Restricted

/-- A value with quotes of both kinds, a backslash, a line end, a character that is not shown and a
closing bracket is read back up to the bracket of the expression. -/
theorem make_filterValue_marks :
    let value := "it's \"5\\6\")\n\u00ad"
    let added : Metric := .make (.text "added") "longSum(added)" "" "General" []
    let page : Dimension := .make "page" "" "" "" [] []
    addedAndPage.metrics.get? "ADDED" = some added ∧
      addedAndPage.dimensions.get? "page" = some page ∧
      ∃ made literal,
        filteredAggregation.make addedAndPage (.text "onPage")
          (["ADDED", "page", value].map Datum.text) = .ok made ∧
        made.expression = "filtered(longSum(added), page == " ++ literal ++ ")" ∧
        Quoted.decode (literal.toList ++ [')']) = some (value.toList, [')']) := by
  intro value added page
  have hadded : addedAndPage.metrics.get? "ADDED" = some added := rfl
  have hpage : addedAndPage.dimensions.get? "page" = some page := rfl
  obtain ⟨hmade, -⟩ := make_filterValue hadded hpage (.text "onPage")
  obtain ⟨made, literal, hmake, hexpression, hread, -⟩ := hmade value
  exact ⟨hadded, hpage, made, literal, hmake, hexpression, hread [')']⟩

end Maker

end MetricQuery
