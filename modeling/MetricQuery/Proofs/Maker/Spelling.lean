import MetricQuery.Proofs.Maker.Dependencies
import MetricQuery.Proofs.Text.Case

/-!
# The spelling of dependencies

Names are looked up without regard to letter case, so two spellings of a name find the same thing.
A maker that writes the name of what it has found therefore writes the same expression for both.
The arithmetic maker looks the names up as well but writes them as they are spelled, so its
expression tells the spellings apart: it is the same for two spellings of a list only if they are
the same list (`eq_of_intercalate_eq`).

## Main definitions

* `Maker.looksUp` : the places of the dependencies that a maker looks up.
* `Maker.folded` : dependencies with what is looked up in lower case.

## Main results

* `Terms.metric_alike`, `Terms.dimension_alike` : look-up of two spellings.
* `eq_of_intercalate_eq` : a joined text tells the spellings of its parts apart.
* `Maker.expression_alike` : the expressions for two spellings.
* `Maker.make_spelling_alike` : the metrics for two spellings.
-/

namespace MetricQuery

/-! ### Joined texts -/

/-- A joined text tells the spellings of its parts apart. -/
theorem eq_of_intercalate_eq {separator : String} {xs ys : List String}
    (hlower : List.Forall₂ (fun x y => x.lowerCase = y.lowerCase) xs ys)
    (h : separator.intercalate xs = separator.intercalate ys) : xs = ys := by
  induction hlower with
  | nil => rfl
  | @cons x y xs ys hxy hrest ih =>
      cases hrest with
      | nil =>
          rw [String.intercalate_singleton, String.intercalate_singleton] at h
          rw [h]
      | cons _ _ =>
          rw [String.intercalate_cons_cons, String.intercalate_cons_cons, String.append_assoc,
            String.append_assoc] at h
          obtain ⟨rfl, hbehind⟩ := String.eq_of_append_eq_append hxy h
          rw [ih ((String.append_right_inj separator).1 hbehind)]

/-! ### Look-up -/

namespace Terms

variable {terms : Terms} {a b : String}

theorem metric_text_eq_ok_iff {metric : Metric} :
    terms.metric (.text a) = .ok metric ↔ terms.metrics.get? a = some metric := by
  rw [metric_eq_ok_iff]
  refine ⟨?_, fun h => ⟨a, rfl, h⟩⟩
  rintro ⟨_, ⟨⟩, h⟩
  exact h

theorem dimension_text_eq_ok_iff {dimension : Dimension} :
    terms.dimension (.text a) = .ok dimension ↔ terms.dimensions.get? a = some dimension := by
  rw [dimension_eq_ok_iff]
  refine ⟨?_, fun h => ⟨a, rfl, h⟩⟩
  rintro ⟨_, ⟨⟩, h⟩
  exact h

/-- Two spellings of a name find the same metric, or both find none. -/
theorem metric_alike (h : a.lowerCase = b.lowerCase) :
    (terms.metric (.text a)).Alike Eq (terms.metric (.text b)) :=
  .of_eq_ok_iff fun metric => by
    rw [metric_text_eq_ok_iff, metric_text_eq_ok_iff, Glossary.get?, Glossary.get?, h]

/-- Two spellings of a name find the same dimension, or both find none. -/
theorem dimension_alike (h : a.lowerCase = b.lowerCase) :
    (terms.dimension (.text a)).Alike Eq (terms.dimension (.text b)) :=
  .of_eq_ok_iff fun dimension => by
    rw [dimension_text_eq_ok_iff, dimension_text_eq_ok_iff, Glossary.get?, Glossary.get?, h]

end Terms

namespace Maker

/-! ### Places that are looked up -/

/-- Whether a maker looks up what stands at a place of its dependencies. -/
def looksUp : Maker → Nat → Bool
  | arithmetic _, _ | ratio _, _ | aggregationAverage _, _ | cardinality _, _ => true
  | filteredAggregation, place => place < 2
  | _, _ => false

/-- Dependencies with what a maker looks up in lower case. -/
def folded (m : Maker) (deps : List String) : List String :=
  deps.mapIdx fun place d => if m.looksUp place then d.lowerCase else d

section Spellings

variable {m : Maker} {terms : Terms} {name : Scalar} {deps deps' : List String}

theorem length_eq_of_folded_eq (h : m.folded deps = m.folded deps') :
    deps.length = deps'.length := by
  have hlength := congrArg List.length h
  rwa [folded, folded, List.length_mapIdx, List.length_mapIdx] at hlength

/-- Two spellings where all is looked up. -/
theorem forall₂_of_folded_eq (hm : ∀ place, m.looksUp place = true)
    (h : m.folded deps = m.folded deps') :
    List.Forall₂ (fun a b => a.lowerCase = b.lowerCase) deps deps' := by
  have hfolded (deps : List String) : m.folded deps = deps.map String.lowerCase :=
    List.ext_getElem (by simp [folded]) (by simp [folded, hm])
  rw [hfolded, hfolded] at h
  rw [← List.forall₂_map_right_iff, ← List.forall₂_map_left_iff, List.forall₂_eq_eq_eq]
  exact h

/-- Two spellings where nothing is looked up. -/
theorem eq_of_folded_eq (hm : ∀ place, m.looksUp place = false)
    (h : m.folded deps = m.folded deps') : deps = deps' := by
  have hfolded (deps : List String) : m.folded deps = deps :=
    List.ext_getElem (by simp [folded]) (by simp [folded, hm])
  rwa [hfolded, hfolded] at h

/-! ### Expressions for two spellings -/

/-- What is computed from the values found under two spellings is the same. -/
theorem alike_of_bind {α : Type} {x y : Except Fault α} (h : x.Alike Eq y)
    (f : α → Except Fault String) : (x >>= f).Alike Eq (y >>= f) := by
  refine h.bind ?_
  rintro found _ rfl
  exact .refl (fun _ => rfl) _

theorem expression_ratio_alike {scale : Binary64}
    (h : List.Forall₂ (fun a b => a.lowerCase = b.lowerCase) deps deps') :
    ((ratio scale).expression terms (deps.map Datum.text)).Alike Eq
      ((ratio scale).expression terms (deps'.map Datum.text)) := by
  obtain _ | ⟨ha, _ | ⟨hb, _ | ⟨hc, hrest⟩⟩⟩ := h
  · exact .error _ _
  · exact .error _ _
  · refine (Terms.metric_alike ha).bind ?_
    rintro numerator _ rfl
    exact alike_of_bind (Terms.metric_alike hb) _
  · exact .error _ _

theorem expression_aggregationAverage_alike {grain : Grain}
    (h : List.Forall₂ (fun a b => a.lowerCase = b.lowerCase) deps deps') :
    ((aggregationAverage grain).expression terms (deps.map Datum.text)).Alike Eq
      ((aggregationAverage grain).expression terms (deps'.map Datum.text)) := by
  obtain _ | ⟨ha, _ | ⟨hb, hrest⟩⟩ := h
  · exact .error _ _
  · exact alike_of_bind (Terms.metric_alike ha) _
  · exact .error _ _

theorem expression_cardinality_alike {byRow : Bool}
    (h : List.Forall₂ (fun a b => a.lowerCase = b.lowerCase) deps deps') :
    ((cardinality byRow).expression terms (deps.map Datum.text)).Alike Eq
      ((cardinality byRow).expression terms (deps'.map Datum.text)) := by
  have hfound : ((deps.map Datum.text).mapM terms.dimension).Alike Eq
      ((deps'.map Datum.text).mapM terms.dimension) := by
    rw [List.mapM_map, List.mapM_map, ← List.forall₂_eq_eq_eq]
    exact .mapM h fun _ _ => Terms.dimension_alike
  exact alike_of_bind hfound _

theorem expression_filteredAggregation_alike
    (h : filteredAggregation.folded deps = filteredAggregation.folded deps') :
    (filteredAggregation.expression terms (deps.map Datum.text)).Alike Eq
      (filteredAggregation.expression terms (deps'.map Datum.text)) := by
  have hlength : deps.length = deps'.length := length_eq_of_folded_eq h
  by_cases hthree : deps.length = 3
  · obtain ⟨metric, dimension, value, rfl⟩ := List.length_eq_three.1 hthree
    obtain ⟨metric', dimension', value', rfl⟩ := List.length_eq_three.1 (hlength ▸ hthree)
    obtain ⟨hmetric, hdimension, rfl⟩ : metric.lowerCase = metric'.lowerCase ∧
        dimension.lowerCase = dimension'.lowerCase ∧ value = value' := by
      simpa [folded, looksUp] using h
    refine (Terms.metric_alike hmetric).bind ?_
    rintro found _ rfl
    exact alike_of_bind (Terms.dimension_alike hdimension) _
  · have hnone (ds : List String) (hds : ds.length ≠ 3) :
        filteredAggregation.expression terms (ds.map Datum.text) = .error .notImplemented := by
      obtain _ | ⟨a, _ | ⟨b, _ | ⟨c, _ | ⟨d, rest⟩⟩⟩⟩ := ds
      · rfl
      · rfl
      · rfl
      · exact absurd rfl hds
      · rfl
    rw [hnone deps hthree, hnone deps' (hlength ▸ hthree)]
    exact .error _ _

/-- The arithmetic maker writes different expressions for different lists. -/
theorem expression_arithmetic_alike {function : Arithmetic}
    (h : List.Forall₂ (fun a b => a.lowerCase = b.lowerCase) deps deps') :
    ((arithmetic function).expression terms (deps.map Datum.text)).Alike
      (fun e e' => e = e' ↔ deps = deps')
      ((arithmetic function).expression terms (deps'.map Datum.text)) := by
  have hfound : ((deps.map Datum.text).mapM terms.metric).Alike (List.Forall₂ Eq)
      ((deps'.map Datum.text).mapM terms.metric) := by
    rw [List.mapM_map, List.mapM_map]
    exact .mapM h fun _ _ => Terms.metric_alike
  refine hfound.bind fun _ _ _ => .ok ?_
  rw [map_written_map_text, map_written_map_text, String.append_left_inj, String.append_right_inj]
  exact ⟨eq_of_intercalate_eq h, congrArg _⟩

/-- The expressions for two spellings.  Only the arithmetic maker tells them apart. -/
theorem expression_alike (h : m.folded deps = m.folded deps') :
    (m.expression terms (deps.map Datum.text)).Alike
      (fun e e' => e = e' ↔ ∀ function, m = arithmetic function → deps = deps')
      (m.expression terms (deps'.map Datum.text)) := by
  have hother (hm : ∀ function, m ≠ arithmetic function)
      (hsame : (m.expression terms (deps.map Datum.text)).Alike Eq
        (m.expression terms (deps'.map Datum.text))) :
      (m.expression terms (deps.map Datum.text)).Alike
        (fun e e' => e = e' ↔ ∀ function, m = arithmetic function → deps = deps')
        (m.expression terms (deps'.map Datum.text)) :=
    hsame.imp fun e e' _ _ he => iff_of_true he fun function hf => absurd hf (hm function)
  have hspelled (hm : ∀ place, m.looksUp place = true) :
      List.Forall₂ (fun a b => a.lowerCase = b.lowerCase) deps deps' := forall₂_of_folded_eq hm h
  cases m with
  | arithmetic function =>
      refine (expression_arithmetic_alike (hspelled fun _ => rfl)).imp fun e e' _ _ he => ?_
      exact he.trans ⟨fun hdeps _ _ => hdeps, fun hdeps => hdeps function rfl⟩
  | ratio scale => exact hother nofun (expression_ratio_alike (hspelled fun _ => rfl))
  | aggregationAverage grain =>
      exact hother nofun (expression_aggregationAverage_alike (hspelled fun _ => rfl))
  | cardinality byRow => exact hother nofun (expression_cardinality_alike (hspelled fun _ => rfl))
  | filteredAggregation => exact hother nofun (expression_filteredAggregation_alike h)
  | _ =>
      obtain rfl := eq_of_folded_eq (fun _ => rfl) h
      exact hother nofun (.refl (fun _ => rfl) _)

end Spellings

/-! ### Metrics for two spellings -/

/-- **Two spellings of the dependencies.**  Let two lists of names be the same up to the letter case
of what a maker looks up.  Then the maker makes a metric of both or of neither, whatever the
glossaries hold.  The two metrics have the same expression, except that the arithmetic maker tells
any two different lists apart. -/
theorem make_spelling_alike {m : Maker} {deps deps' : List String}
    (h : m.folded deps = m.folded deps') (terms : Terms) (name : Scalar) :
    (m.make terms name (deps.map Datum.text)).Alike
      (fun metric metric' => metric.expression = metric'.expression ↔
        ∀ function, m = arithmetic function → deps = deps')
      (m.make terms name (deps'.map Datum.text)) := by
  rw [make, make, List.length_map, List.length_map, length_eq_of_folded_eq h,
    Datum.distinctScalars_texts, Datum.distinctScalars_texts]
  refine (Except.Alike.refl (fun _ => rfl) (m.checkCount name deps'.length)).bind fun _ _ _ => ?_
  exact (expression_alike h).bind fun e e' he => .ok he

/-- A sum of two metrics is written with the names as they are spelled. -/
theorem make_spelling_arithmetic :
    let m : Maker := arithmetic .plus
    let deps : List String := ["added", "added"]
    let deps' : List String := ["ADDED", "added"]
    let twice : Metric := ⟨.text "twice", "(added + added)", "", "General", [.text "added"]⟩
    let twice' : Metric :=
      ⟨.text "twice", "(ADDED + added)", "", "General", [.text "ADDED", .text "added"]⟩
    m.folded deps = m.folded deps' ∧
      m.make addedAndPage (.text "twice") (deps.map Datum.text) = .ok twice ∧
      m.make addedAndPage (.text "twice") (deps'.map Datum.text) = .ok twice' ∧
      twice.expression ≠ twice'.expression := by
  intro m deps deps' twice twice'
  exact ⟨rfl, rfl, rfl, by decide⟩

/-- A metric restricted to the rows with a value is the same for two spellings of the metric and of
the dimension. -/
theorem make_spelling_alike_filtered :
    let deps : List String := ["added", "page", "Main"]
    let deps' : List String := ["Added", "PAGE", "Main"]
    filteredAggregation.folded deps = filteredAggregation.folded deps' ∧
    ∃ metric metric',
      filteredAggregation.make addedAndPage (.text "onMain") (deps.map Datum.text) = .ok metric ∧
      filteredAggregation.make addedAndPage (.text "onMain") (deps'.map Datum.text) =
        .ok metric' ∧ metric.expression = metric'.expression := by
  intro deps deps'
  have hfolded : filteredAggregation.folded deps = filteredAggregation.folded deps' := by
    decide +kernel
  have halike := make_spelling_alike hfolded addedAndPage (.text "onMain")
  obtain ⟨metric, hmetric⟩ : ∃ metric,
      filteredAggregation.make addedAndPage (.text "onMain") (deps.map Datum.text) = .ok metric :=
    ⟨_, rfl⟩
  obtain ⟨metric', hmetric'⟩ := halike.exists_iff.1 ⟨metric, hmetric⟩
  exact ⟨hfolded, metric, metric', hmetric, hmetric', (halike.rel hmetric hmetric').2 nofun⟩

end Maker

end MetricQuery
