import MetricQuery.Maker.Supply
import MetricQuery.Proofs.Maker.Resolution
import MetricQuery.Proofs.Outcome
import MetricQuery.Proofs.Vocabulary.Glossary

/-!
# Makers and growing glossaries

Makers share the glossaries that they were given, and more may be added to a glossary after a maker
has been built.  Two things settle what that does to the metrics that a maker makes.  A maker looks
at nothing but the answers to the names it looks up (`Maker.make_congr`), and it makes a metric only
if all of them are found (`Maker.finds_of_make_eq_ok`).  And a glossary is written once, so what has
been found stays found.  A metric that can be made therefore stays the same for good, while a name
that is unknown today may be known tomorrow.

## Main definitions

* `Maker.metricNames`, `Maker.dimensionNames` : the dependencies that a maker looks up.
* `Maker.Agree`, `Maker.Finds` : glossaries that answer alike, and that find all names.
* `Terms.Le` : glossaries that find whatever others find.
* `Shelf.Addition`, `Library.Addition` : calls that offer items to a shared glossary.
* `Library.run` : a library after several additions.
* `SuppliedMaker.makeable` : the names and dependencies for which a maker makes a metric.

## Main results

* `Maker.make_congr`, `Maker.finds_of_make_eq_ok` : what a maker depends on.
* `Maker.make_of_le` : a metric stays the same where more is found.
* `Shelf.glossary_run`, `Library.terms_run` : the glossaries at given places after additions.
* `SuppliedMaker.make_growth` : the metrics of a maker while its glossaries grow.
-/

namespace MetricQuery

/-! ### What a maker looks up -/

namespace Maker

/-- The dependencies that a maker looks up among the metrics. -/
def metricNames : Maker → List Datum → List Datum
  | arithmetic _, deps => deps
  | ratio _, [numerator, denominator] => [numerator, denominator]
  | aggregationAverage _, [d] => [d]
  | filteredAggregation, [metric, _, _] => [metric]
  | _, _ => []

/-- The dependencies that a maker looks up among the dimensions. -/
def dimensionNames : Maker → List Datum → List Datum
  | cardinality _, deps => deps
  | filteredAggregation, [_, dimension, _] => [dimension]
  | _, _ => []

/-- Glossaries that answer alike to what a maker looks up. -/
structure Agree (m : Maker) (deps : List Datum) (terms terms' : Terms) : Prop where
  metrics : ∀ d ∈ m.metricNames deps, terms.metric d = terms'.metric d
  dimensions : ∀ d ∈ m.dimensionNames deps, terms.dimension d = terms'.dimension d

/-- Glossaries that find all that a maker looks up. -/
structure Finds (m : Maker) (deps : List Datum) (terms : Terms) : Prop where
  metrics : ∀ d ∈ m.metricNames deps, ∃ metric, terms.metric d = .ok metric
  dimensions : ∀ d ∈ m.dimensionNames deps, ∃ dimension, terms.dimension d = .ok dimension

section LookUp

variable {m : Maker} {terms terms' : Terms} {name : Scalar} {deps : List Datum}

theorem ratioExpression_congr {scale : Binary64} {numerator denominator : Datum}
    (hnumerator : terms.metric numerator = terms'.metric numerator)
    (hdenominator : terms.metric denominator = terms'.metric denominator) :
    ratioExpression scale terms numerator denominator =
      ratioExpression scale terms' numerator denominator := by
  rw [ratioExpression, ratioExpression, hnumerator, hdenominator]

theorem found_of_ratioExpression_eq_ok {scale : Binary64} {numerator denominator : Datum}
    {e : String} (h : ratioExpression scale terms numerator denominator = .ok e) :
    ∀ d ∈ [numerator, denominator], ∃ metric, terms.metric d = .ok metric := by
  obtain ⟨first, hfirst, h⟩ := Except.bind_eq_ok_iff.1 h
  obtain ⟨second, hsecond, -⟩ := Except.bind_eq_ok_iff.1 h
  intro d hd
  rcases List.mem_pair.1 hd with rfl | rfl
  · exact ⟨first, hfirst⟩
  · exact ⟨second, hsecond⟩

/-- The expression of a metric depends on nothing but the answers to what the maker looks up. -/
theorem expression_congr (h : m.Agree deps terms terms') :
    m.expression terms deps = m.expression terms' deps := by
  obtain ⟨hmetrics, hdimensions⟩ := h
  -- A case for each kind of expression.  Those that look nothing up are left for the end.
  fun_cases expression m terms deps
  case case5 function =>
      have hall : deps.mapM terms.metric = deps.mapM terms'.metric :=
        List.mapM_congr_of_mem hmetrics
      rw [expression, hall]
  case case6 scale numerator denominator =>
      exact ratioExpression_congr (hmetrics _ (by simp [metricNames]))
        (hmetrics _ (by simp [metricNames]))
  case case7 grain d => rw [expression, hmetrics d (by simp [metricNames])]
  case case9 byRow =>
      have hall : deps.mapM terms.dimension = deps.mapM terms'.dimension :=
        List.mapM_congr_of_mem hdimensions
      rw [expression, hall]
  case case11 metric dimension value =>
      rw [expression, hmetrics metric (by simp [metricNames]),
        hdimensions dimension (by simp [dimensionNames])]
  all_goals simp_all [expression]

/-- An expression is only written if all is found that the maker looks up. -/
theorem finds_of_expression_eq_ok {e : String} (h : m.expression terms deps = .ok e) :
    m.Finds deps terms := by
  fun_cases expression m terms deps
  case case5 function =>
      obtain ⟨found, hfound, -⟩ := Except.bind_eq_ok_iff.1 h
      refine ⟨fun d hd => ?_, nofun⟩
      obtain ⟨metric, -, hmetric⟩ := (List.mapM_eq_ok_iff.1 hfound).exists_of_mem_left hd
      exact ⟨metric, hmetric⟩
  case case6 scale numerator denominator =>
      exact ⟨found_of_ratioExpression_eq_ok h, nofun⟩
  case case7 grain d =>
      obtain ⟨metric, hmetric, -⟩ := Except.bind_eq_ok_iff.1 h
      exact ⟨List.forall_mem_singleton.2 ⟨metric, hmetric⟩, nofun⟩
  case case9 byRow =>
      obtain ⟨found, hfound, -⟩ := Except.bind_eq_ok_iff.1 h
      refine ⟨nofun, fun d hd => ?_⟩
      obtain ⟨dimension, -, hdimension⟩ := (List.mapM_eq_ok_iff.1 hfound).exists_of_mem_left hd
      exact ⟨dimension, hdimension⟩
  case case11 metric dimension value =>
      obtain ⟨found, hfound, h⟩ := Except.bind_eq_ok_iff.1 h
      obtain ⟨found', hfound', -⟩ := Except.bind_eq_ok_iff.1 h
      exact ⟨List.forall_mem_singleton.2 ⟨found, hfound⟩,
        List.forall_mem_singleton.2 ⟨found', hfound'⟩⟩
  -- The last case is a maker without an expression.
  case case12 => simp_all [expression]
  all_goals exact ⟨nofun, nofun⟩

/-- A metric depends on nothing but the answers to what its maker looks up. -/
theorem make_congr (h : m.Agree deps terms terms') :
    m.make terms name deps = m.make terms' name deps := by
  rw [make, make, expression_congr h]

/-- A metric is only made if all is found that its maker looks up. -/
theorem finds_of_make_eq_ok {metric : Metric} (h : m.make terms name deps = .ok metric) :
    m.Finds deps terms := by
  obtain ⟨-, -, h⟩ := Except.bind_eq_ok_iff.1 h
  obtain ⟨e, he, -⟩ := Except.bind_eq_ok_iff.1 h
  exact finds_of_expression_eq_ok he

end LookUp

end Maker

/-! ### Glossaries that find more -/

/-- Whatever some glossaries find, others find as well. -/
structure Terms.Le (terms terms' : Terms) : Prop where
  metrics : ∀ {name : String} {metric : Metric},
    terms.metrics.get? name = some metric → terms'.metrics.get? name = some metric
  dimensions : ∀ {name : String} {dimension : Dimension},
    terms.dimensions.get? name = some dimension → terms'.dimensions.get? name = some dimension

namespace Terms

variable {terms terms' : Terms} {d : Datum}

theorem metric_eq_ok_iff {metric : Metric} :
    terms.metric d = .ok metric ↔
      ∃ name, d.readText = .ok name ∧ terms.metrics.get? name = some metric := by
  rw [Terms.metric, Except.bind_eq_ok_iff]
  refine exists_congr fun name => and_congr_right fun _ => ?_
  cases terms.metrics.get? name with
  | none => exact ⟨(nomatch ·), (nomatch ·)⟩
  | some found =>
      exact ⟨(congrArg some <| Except.ok.inj ·), (congrArg Except.ok <| Option.some.inj ·)⟩

theorem dimension_eq_ok_iff {dimension : Dimension} :
    terms.dimension d = .ok dimension ↔
      ∃ name, d.readText = .ok name ∧ terms.dimensions.get? name = some dimension := by
  rw [Terms.dimension, Except.bind_eq_ok_iff]
  refine exists_congr fun name => and_congr_right fun _ => ?_
  cases terms.dimensions.get? name with
  | none => exact ⟨(nomatch ·), (nomatch ·)⟩
  | some found =>
      exact ⟨(congrArg some <| Except.ok.inj ·), (congrArg Except.ok <| Option.some.inj ·)⟩

theorem Le.metric_eq_ok (hle : terms.Le terms') {metric : Metric}
    (h : terms.metric d = .ok metric) : terms'.metric d = .ok metric := by
  obtain ⟨name, hname, hfound⟩ := metric_eq_ok_iff.1 h
  exact metric_eq_ok_iff.2 ⟨name, hname, hle.metrics hfound⟩

theorem Le.dimension_eq_ok (hle : terms.Le terms') {dimension : Dimension}
    (h : terms.dimension d = .ok dimension) : terms'.dimension d = .ok dimension := by
  obtain ⟨name, hname, hfound⟩ := dimension_eq_ok_iff.1 h
  exact dimension_eq_ok_iff.2 ⟨name, hname, hle.dimensions hfound⟩

end Terms

/-- What a maker has found it finds again where more is found. -/
theorem Maker.Finds.agree {m : Maker} {deps : List Datum} {terms terms' : Terms}
    (h : m.Finds deps terms) (hle : terms.Le terms') : m.Agree deps terms terms' := by
  refine ⟨fun d hd => ?_, fun d hd => ?_⟩
  · obtain ⟨metric, hmetric⟩ := h.metrics d hd
    rw [hmetric, hle.metric_eq_ok hmetric]
  · obtain ⟨dimension, hdimension⟩ := h.dimensions d hd
    rw [hdimension, hle.dimension_eq_ok hdimension]

/-- A metric that is made stays the same where more is found. -/
theorem Maker.make_of_le {m : Maker} {terms terms' : Terms} {name : Scalar} {deps : List Datum}
    {metric : Metric} (hle : terms.Le terms') (h : m.make terms name deps = .ok metric) :
    m.make terms' name deps = .ok metric := by
  rw [← make_congr ((finds_of_make_eq_ok h).agree hle), h]

/-! ### Additions to shared glossaries -/

namespace Shelf

/-- A call that offers items to the glossary at a place. -/
structure Addition (α : Type) where
  place : Nat
  call : Glossary.Call α

variable {α : Type}

/-- The calls at a place. -/
def callsAt (place : Nat) (additions : List (Addition α)) : List (Glossary.Call α) :=
  (additions.filter (·.place == place)).map (·.call)

variable [Named α]

/-- What an addition does. -/
def apply (s : Shelf α) (a : Addition α) : Shelf α :=
  s.set a.place (a.call.apply (s.glossary a.place)).1

/-- Glossaries after several additions. -/
def run (s : Shelf α) (additions : List (Addition α)) : Shelf α :=
  additions.foldl apply s

section Additions

variable {s s' : Shelf α} {place : Nat}

/-- An item that is added is an addition of one call. -/
theorem eq_apply_of_add_eq_ok {item : α} {added : Bool} (h : s.add place item = .ok (s', added)) :
    s' = s.apply ⟨place, .add item⟩ := by
  obtain ⟨⟨g, b⟩, hadd, h⟩ := Except.bind_eq_ok_iff.1 h
  obtain ⟨rfl, rfl⟩ := Prod.mk.inj (Except.ok.inj h)
  rw [apply, Glossary.Call.apply, hadd]

theorem length_apply (s : Shelf α) (a : Addition α) : (s.apply a).length = s.length :=
  List.length_set

theorem glossary_apply (h : place < s.length) (a : Addition α) :
    (s.apply a).glossary place = (s.glossary place).run (callsAt place [a]) := by
  rw [glossary, apply]
  by_cases hplace : a.place = place
  · subst hplace
    simp [callsAt, h, Glossary.run]
  · simp [callsAt, hplace, Glossary.run, glossary]

theorem length_run (s : Shelf α) (additions : List (Addition α)) :
    (s.run additions).length = s.length := by
  induction additions generalizing s with
  | nil => rfl
  | cons a additions ih => exact (ih (s.apply a)).trans (length_apply s a)

/-- A glossary changes by the calls at its place. -/
theorem glossary_run (h : place < s.length) (additions : List (Addition α)) :
    (s.run additions).glossary place = (s.glossary place).run (callsAt place additions) := by
  induction additions generalizing s with
  | nil => rfl
  | cons a additions ih =>
      have hsplit :
          callsAt place (a :: additions) = callsAt place [a] ++ callsAt place additions := by
        rw [callsAt, callsAt, callsAt, ← List.map_append, ← List.filter_append]
        rfl
      rw [hsplit, Glossary.run, List.foldl_append]
      refine (ih (length_apply s a ▸ h)).trans ?_
      rw [glossary_apply h]
      rfl

end Additions

end Shelf

namespace Library

/-- An addition to a glossary of metrics or of dimensions. -/
inductive Addition
  | metric (a : Shelf.Addition Metric)
  | dimension (a : Shelf.Addition Dimension)

/-- The addition to a glossary of metrics. -/
def Addition.metric? : Addition → Option (Shelf.Addition Metric)
  | metric a => some a
  | dimension _ => none

/-- The addition to a glossary of dimensions. -/
def Addition.dimension? : Addition → Option (Shelf.Addition Dimension)
  | metric _ => none
  | dimension a => some a

/-- What an addition does. -/
def apply (l : Library) : Addition → Library
  | .metric a => { l with metrics := l.metrics.apply a }
  | .dimension a => { l with dimensions := l.dimensions.apply a }

/-- A library after several additions. -/
def run (l : Library) (additions : List Addition) : Library :=
  additions.foldl apply l

/-- The calls at a glossary of metrics. -/
def metricCalls (place : Nat) (additions : List Addition) : List (Glossary.Call Metric) :=
  Shelf.callsAt place (additions.filterMap Addition.metric?)

/-- The calls at a glossary of dimensions. -/
def dimensionCalls (place : Nat) (additions : List Addition) : List (Glossary.Call Dimension) :=
  Shelf.callsAt place (additions.filterMap Addition.dimension?)

/-- The glossaries of a supply are in a library. -/
structure Has (l : Library) (s : Supply) : Prop where
  metrics : s.metrics < l.metrics.length
  dimensions : s.dimensions < l.dimensions.length

section Additions

variable {l : Library} {s : Supply}

theorem run_eq (l : Library) (additions : List Addition) :
    l.run additions = ⟨l.metrics.run (additions.filterMap Addition.metric?),
      l.dimensions.run (additions.filterMap Addition.dimension?)⟩ := by
  induction additions generalizing l with
  | nil => rfl
  | cons a additions ih =>
      refine (ih (l.apply a)).trans ?_
      cases a with
      | metric a => rfl
      | dimension a => rfl

theorem Has.run (h : l.Has s) (additions : List Addition) : (l.run additions).Has s := by
  rw [run_eq]
  refine ⟨?_, ?_⟩
  · rw [Shelf.length_run]
    exact h.metrics
  · rw [Shelf.length_run]
    exact h.dimensions

/-- What a supply holds changes by the calls at its two glossaries. -/
theorem terms_run (h : l.Has s) (additions : List Addition) :
    (l.run additions).terms s =
      ⟨(l.terms s).metrics.run (metricCalls s.metrics additions),
        (l.terms s).dimensions.run (dimensionCalls s.dimensions additions)⟩ := by
  rw [run_eq, terms, Shelf.glossary_run h.metrics, Shelf.glossary_run h.dimensions]
  rfl

/-- What has been found in the glossaries of a supply stays found. -/
theorem terms_le_run (h : l.Has s) (additions : List Addition) :
    (l.terms s).Le ((l.run additions).terms s) := by
  rw [terms_run h]
  exact ⟨Glossary.get?_of_prefix (Glossary.prefix_run _ _),
    Glossary.get?_of_prefix (Glossary.prefix_run _ _)⟩

/-- A metric that is added to the glossary of a supply is an addition of one call. -/
theorem eq_apply_of_addMetric_eq_ok {l' : Library} {metric : Metric} {added : Bool}
    (h : l.addMetric s metric = .ok (l', added)) :
    l' = l.apply (.metric ⟨s.metrics, .add metric⟩) := by
  obtain ⟨⟨shelf, b⟩, hadd, h⟩ := Except.bind_eq_ok_iff.1 h
  obtain ⟨rfl, -⟩ := Prod.mk.inj (Except.ok.inj h)
  rw [apply, Shelf.eq_apply_of_add_eq_ok hadd]

/-- A dimension that is added to the glossary of a supply is an addition of one call. -/
theorem eq_apply_of_addDimension_eq_ok {l' : Library} {dimension : Dimension} {added : Bool}
    (h : l.addDimension s dimension = .ok (l', added)) :
    l' = l.apply (.dimension ⟨s.dimensions, .add dimension⟩) := by
  obtain ⟨⟨shelf, b⟩, hadd, h⟩ := Except.bind_eq_ok_iff.1 h
  obtain ⟨rfl, -⟩ := Prod.mk.inj (Except.ok.inj h)
  rw [apply, Shelf.eq_apply_of_add_eq_ok hadd]

end Additions

end Library

namespace Template

variable {outside : List Module} {t : Template} {s : Supply} {m : SuppliedMaker}

theorem of_buildFor_eq_ok (h : t.buildFor outside s = .ok m) :
    t.build outside = .ok m.maker ∧ m.supply = s := by
  obtain ⟨maker, hmaker, h⟩ := Except.bind_eq_ok_iff.1 h
  obtain rfl := Except.ok.inj h
  exact ⟨hmaker, rfl⟩

/-- A template with the name of a built-in class describes a maker of the package. -/
theorem exists_own_of_buildFor_eq_ok
    (hpath : t.classPath ∈ MakerClass.builtIn.map MakerClass.name)
    (h : t.buildFor outside s = .ok m) : ∃ maker, m.maker = .own maker := by
  obtain ⟨c, hc, hname⟩ := List.mem_map.1 hpath
  obtain ⟨hbuild, -⟩ := of_buildFor_eq_ok h
  rw [build_of_builtIn hc hname.symm, Except.mapError_eq_ok_iff, Except.map_eq_ok_iff] at hbuild
  obtain ⟨maker, -, hmaker⟩ := hbuild
  exact ⟨maker, hmaker.symm⟩

end Template

/-! ### Makers while their glossaries grow -/

namespace SuppliedMaker

open Library

/-- The names and dependencies for which a maker makes a metric. -/
def makeable (m : SuppliedMaker) (l : Library) : Set (Scalar × List Datum) :=
  { call | ∃ metric, m.make l call.1 call.2 = .ok metric }

/-- **Makers share glossaries that grow.**  Let two glossaries of a library be given, empty or not,
and let a template be built with them.  No new glossary takes the place of a given one, and a
built-in class gives a maker of the package.  For such a maker, after any additions to glossaries of
the library, the following is so.

* A metric is made of the two glossaries as they are then, with all that has been added to them.
* Nothing counts but the answers to the names that the maker looks up.
* A metric is only made if all of these names are found, and after further additions the same name
  and dependencies give the same metric.
* The names and dependencies for which there is a metric do not become fewer. -/
theorem make_growth {l : Library} {metrics dimensions : Nat}
    (hmetrics : metrics < l.metrics.length) (hdimensions : dimensions < l.dimensions.length)
    {outside : List Module} {t : Template} {m : SuppliedMaker}
    (hbuild : t.buildFor outside (l.supply (some metrics) (some dimensions)).2 = .ok m) :
    (l.supply (some metrics) (some dimensions)).1 = l ∧
    (t.classPath ∈ MakerClass.builtIn.map MakerClass.name → ∃ maker, m.maker = .own maker) ∧
    ∀ maker, m.maker = .own maker → ∀ additions : List Addition,
      let now := l.run additions
      let terms : Terms := ⟨l.metrics[metrics].run (metricCalls metrics additions),
        l.dimensions[dimensions].run (dimensionCalls dimensions additions)⟩
      (∀ name deps, m.make now name deps = maker.make terms name deps) ∧
      (∀ name deps terms', maker.Agree deps terms terms' →
        m.make now name deps = maker.make terms' name deps) ∧
      (∀ name deps metric, m.make now name deps = .ok metric →
        maker.Finds deps terms ∧ ∀ more, m.make (now.run more) name deps = .ok metric) ∧
      ∀ more, m.makeable now ⊆ m.makeable (now.run more) := by
  obtain ⟨-, hsupply⟩ := Template.of_buildFor_eq_ok hbuild
  refine ⟨rfl, (Template.exists_own_of_buildFor_eq_ok · hbuild), fun maker hmaker additions => ?_⟩
  intro now terms
  replace hsupply : m.supply = ⟨metrics, dimensions⟩ := hsupply
  have hhas : l.Has m.supply := by
    rw [hsupply]
    exact ⟨hmetrics, hdimensions⟩
  have hterms : now.terms m.supply = terms := by
    have hstart :
        l.terms ⟨metrics, dimensions⟩ = ⟨l.metrics[metrics], l.dimensions[dimensions]⟩ := by
      simp [Library.terms, Shelf.glossary, hmetrics, hdimensions]
    rw [terms_run hhas, hsupply, hstart]
  have hown : ∀ l' name deps, m.make l' name deps = maker.make (l'.terms m.supply) name deps :=
    fun l' name deps => by rw [make, hmaker, AnyMaker.make]
  have hmake : ∀ name deps, m.make now name deps = maker.make terms name deps :=
    fun name deps => by rw [hown, hterms]
  have hstays : ∀ name deps metric, m.make now name deps = .ok metric →
      ∀ more, m.make (now.run more) name deps = .ok metric := fun name deps metric h more => by
    rw [hown] at h ⊢
    exact Maker.make_of_le (terms_le_run (hhas.run additions) more) h
  refine ⟨hmake, fun name deps terms' hagree => ?_, fun name deps metric h => ⟨?_, ?_⟩,
    fun more => ?_⟩
  · rw [hmake, Maker.make_congr hagree]
  · rw [hmake] at h
    exact Maker.finds_of_make_eq_ok h
  · exact hstays name deps metric h
  · rintro ⟨name, deps⟩ ⟨metric, h⟩
    exact ⟨metric, hstays name deps metric h more⟩

/-- A library with an empty glossary of each kind. -/
def bareLibrary : Library := ⟨[.empty], [.empty]⟩

/-- A dimension and a metric that are added to the glossaries of the library. -/
def firstAdditions : List Addition :=
  [.dimension ⟨0, .register (.make "country" "" "" "" [] [])⟩,
   .metric ⟨0, .addAll [⟨.text "clicks", "longSum(clicks)", "", "General", []⟩]⟩]

/-- A maker that is built with empty glossaries knows a metric and a dimension once they have been
added, and what it makes of them stays the same. -/
theorem make_growth_clicks :
    let m : SuppliedMaker := ⟨.own .filteredAggregation, ⟨0, 0⟩⟩
    let deps : List Datum := [.text "Clicks", .text "country", .text "us"]
    let usClicks : Metric :=
      .make (.text "usClicks") "filtered(longSum(clicks), country == 'us')" "" "General"
        [.text "Clicks", .text "country", .text "us"]
    Template.buildFor [] ⟨"clicksOf", "FilteredAggregationMaker", []⟩
        (bareLibrary.supply (some 0) (some 0)).2 = .ok m ∧
      m.make bareLibrary (.text "usClicks") deps = .error (.metricUnknown "Clicks") ∧
      m.make (bareLibrary.run firstAdditions) (.text "usClicks") deps = .ok usClicks ∧
      ∀ more, m.make ((bareLibrary.run firstAdditions).run more) (.text "usClicks") deps =
        .ok usClicks := by
  have hbuild : Template.buildFor [] ⟨"clicksOf", "FilteredAggregationMaker", []⟩
      (bareLibrary.supply (some 0) (some 0)).2 = .ok ⟨.own .filteredAggregation, ⟨0, 0⟩⟩ := rfl
  obtain ⟨-, -, hgrowth⟩ := make_growth (by decide) (by decide) hbuild
  obtain ⟨-, -, hstays, -⟩ := hgrowth _ rfl firstAdditions
  exact ⟨hbuild, rfl, rfl, (hstays _ _ _ rfl).2⟩

end SuppliedMaker

end MetricQuery
