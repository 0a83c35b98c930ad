import Mathlib.Algebra.GroupWithZero.Nat
import Mathlib.Algebra.Order.BigOperators.Group.List
import Mathlib.Algebra.Order.Group.Nat
import MetricQuery.Proofs.Collection
import MetricQuery.Proofs.Config.Entries
import MetricQuery.Proofs.Distinct
import MetricQuery.Proofs.Maker.Supply

/-!
# The dependencies that a metric tells

A metric keeps the names of what it was made from, of equal names the first.  A maker takes names by
their places, so the record is the list that the maker was given exactly if no name occurs twice in
it (`Maker.make_dependencies_iff`).  From a shorter record the same metric is not made again: a
maker with a fixed count of dependencies refuses it, and the others write an expression that is
shorter by what the record leaves out.

## Main results

* `eq_of_sublist_of_intercalate_eq` : a text that joins a list tells whether some are left out.
* `Maker.make_eq_ok_iff` : the metric that is made of a list of names.
* `Maker.length_eq_of_expression_eq` : an expression tells whether some names are left out.
* `Maker.make_dependencies_iff` : the record of a metric, and the metric made from the record.
-/

namespace MetricQuery

/-! ### Joined texts -/

section Joined

variable {separator : String} {xs ys : List String}

/-- A joined text and a separator behind it hold each part and a separator. -/
theorem length_intercalate (hne : xs ≠ []) :
    (separator.intercalate xs).length + separator.length =
      (xs.map fun x => x.length + separator.length).sum := by
  induction xs with
  | nil => exact absurd rfl hne
  | cons x rest ih =>
      cases rest with
      | nil => simp
      | cons y rest =>
          have hrest := ih (List.cons_ne_nil y rest)
          rw [String.intercalate_cons_cons, String.length_append, String.length_append,
            List.map_cons, List.sum_cons, ← hrest]
          omega

/-- Something that is left out of a list lowers its sum. -/
theorem eq_of_sublist_of_sum_eq {weight : String → Nat} (hweight : ∀ x, 0 < weight x)
    (hsub : xs.Sublist ys) (h : (xs.map weight).sum = (ys.map weight).sum) : xs = ys := by
  induction hsub with
  | slnil => rfl
  | @cons xs ys y hsub ih =>
      have hle : (xs.map weight).sum ≤ (ys.map weight).sum :=
        (hsub.map weight).sum_le_sum fun _ _ => Nat.zero_le _
      have hy : 0 < weight y := hweight y
      rw [List.map_cons, List.sum_cons] at h
      omega
  | @cons_cons xs ys x hsub ih =>
      rw [List.map_cons, List.map_cons, List.sum_cons, List.sum_cons] at h
      rw [ih (Nat.add_left_cancel h)]

/-- A text that joins a list tells whether some of it are left out. -/
theorem eq_of_sublist_of_intercalate_eq (hseparator : 0 < separator.length)
    (hsub : xs.Sublist ys) (hne : xs ≠ [])
    (h : separator.intercalate xs = separator.intercalate ys) : xs = ys := by
  have hne' : ys ≠ [] := fun hys => hne (List.sublist_nil.1 (hys ▸ hsub))
  have hsum : (xs.map fun x => x.length + separator.length).sum =
      (ys.map fun y => y.length + separator.length).sum := by
    rw [← length_intercalate hne, h, length_intercalate hne']
  exact eq_of_sublist_of_sum_eq (fun x => Nat.add_pos_right x.length hseparator) hsub hsum

end Joined

/-! ### Metrics made of names -/

theorem distinct_map_text (deps : List String) :
    distinct (deps.map Scalar.text) = (distinct deps).map Scalar.text :=
  distinct_map (fun _ _ => Bool.eq_iff_iff.2 (Scalar.text_beq_text_iff.trans beq_iff_eq.symm)) deps

/-- A list of names is recorded without repeats. -/
theorem Datum.distinctScalars_texts (deps : List String) :
    (Datum.list (deps.map Datum.text)).distinctScalars = .ok (distinct (deps.map Scalar.text)) := by
  rw [← distinctScalars_scalars, List.map_map]
  rfl

namespace Maker

/-- The counts of dependencies that a maker takes. -/
def Arity.Admits : Arity → Nat → Prop
  | exactly required, given => given = required
  | atLeastOne, given => 0 < given

variable {m : Maker} {terms : Terms} {name : Scalar} {deps deps' : List String} {metric : Metric}

theorem checkCount_eq_ok_iff {given : Nat} :
    m.checkCount name given = .ok () ↔ m.arity.Admits given := by
  rw [checkCount]
  cases m.arity with
  | exactly required =>
      by_cases h : given = required
      · simp [h, Arity.Admits]
      · simp [h, Arity.Admits]
  | atLeastOne =>
      by_cases h : given = 0
      · simp [h, Arity.Admits]
      · simp [h, Arity.Admits, Nat.pos_of_ne_zero h]

/-- A metric is made of names if their count is right and there is an expression. -/
theorem make_eq_ok_iff :
    m.make terms name (deps.map Datum.text) = .ok metric ↔
      m.arity.Admits deps.length ∧
        ∃ e, m.expression terms (deps.map Datum.text) = .ok e ∧
          Metric.make name e "" m.category (deps.map Scalar.text) = metric := by
  have hmake (e : String) :
      Metric.make name e "" m.category (distinct (deps.map Scalar.text)) =
        Metric.make name e "" m.category (deps.map Scalar.text) := by
    rw [Metric.make, Metric.make, distinct_distinct]
  have hcount : m.checkCount name deps.length = .ok () ↔ m.arity.Admits deps.length :=
    checkCount_eq_ok_iff
  simp only [make, Except.bind_eq_ok_iff, List.length_map, Datum.distinctScalars_texts, ← hcount]
  constructor
  · rintro ⟨⟨⟩, hcount, e, he, dependencies, hdependencies, hmetric⟩
    obtain rfl := Except.ok.inj hdependencies
    exact ⟨hcount, e, he, (hmake e).symm.trans (Except.ok.inj hmetric)⟩
  · rintro ⟨hcount, e, he, hmetric⟩
    exact ⟨(), hcount, e, he, _, rfl, congrArg Except.ok ((hmake e).trans hmetric)⟩

theorem map_written_map_text (deps : List String) :
    (deps.map Datum.text).map Datum.written = deps := by
  rw [List.map_map]
  exact List.map_id deps

/-- The expression of an arithmetic function joins the names as they are spelled. -/
theorem expression_arithmetic_eq_ok_iff {function : Arithmetic} {e : String} :
    (arithmetic function).expression terms (deps.map Datum.text) = .ok e ↔
      (∃ found, (deps.map Datum.text).mapM terms.metric = .ok found) ∧
        "(" ++ s!" {function.sign} ".intercalate deps ++ ")" = e := by
  simp only [expression, Except.bind_eq_ok_iff, map_written_map_text]
  constructor
  · rintro ⟨found, hfound, he⟩
    exact ⟨⟨found, hfound⟩, Except.ok.inj he⟩
  · rintro ⟨⟨found, hfound⟩, he⟩
    exact ⟨found, hfound, congrArg Except.ok he⟩

/-- The expression of a cardinality joins the names of the dimensions that are found. -/
theorem expression_cardinality_eq_ok_iff {byRow : Bool} {e : String} :
    (cardinality byRow).expression terms (deps.map Datum.text) = .ok e ↔
      ∃ found, (deps.map Datum.text).mapM terms.dimension = .ok found ∧
        "cardinality(" ++ ", ".intercalate (found.map (·.apiName)) ++ ", byRow=" ++
          (if byRow then "true" else "false") ++ ")" = e := by
  simp only [expression, Except.bind_eq_ok_iff]
  exact exists_congr fun found => and_congr_right fun _ =>
    ⟨Except.ok.inj, congrArg Except.ok⟩

/-! ### Names that are left out -/

/-- The values that are computed from a part of a list are a part of those of the list. -/
theorem sublist_of_mapM_eq_ok {α β : Type} {f : α → Except Fault β} {xs ys : List α}
    (hsub : xs.Sublist ys) {us vs : List β} (hus : xs.mapM f = .ok us) (hvs : ys.mapM f = .ok vs) :
    us.Sublist vs := by
  rw [List.mapM_eq_ok_iff] at hus hvs
  induction hsub generalizing us vs with
  | slnil =>
      cases hus
      exact List.nil_sublist vs
  | cons y hsub ih =>
      obtain _ | ⟨hv, hvs⟩ := hvs
      exact (ih hus hvs).cons _
  | cons_cons x hsub ih =>
      obtain _ | ⟨hu, hus⟩ := hus
      obtain _ | ⟨hv, hvs⟩ := hvs
      obtain rfl := Except.ok.inj (hu.symm.trans hv)
      exact (ih hus hvs).cons_cons _

/-- An expression of a maker that takes any count of names tells whether some are left out. -/
theorem length_eq_of_expression_eq (harity : m.arity = .atLeastOne) (hsub : deps'.Sublist deps)
    (hne : deps' ≠ []) {e : String} (h : m.expression terms (deps.map Datum.text) = .ok e)
    (h' : m.expression terms (deps'.map Datum.text) = .ok e) : deps'.length = deps.length := by
  cases m with
  | arithmetic function =>
      obtain ⟨-, h⟩ := expression_arithmetic_eq_ok_iff.1 h
      obtain ⟨-, h'⟩ := expression_arithmetic_eq_ok_iff.1 h'
      have hjoined := h'.trans h.symm
      rw [String.append_left_inj, String.append_right_inj] at hjoined
      have hseparator : 0 < s!" {function.sign} ".length := by cases function <;> decide
      rw [eq_of_sublist_of_intercalate_eq hseparator hsub hne hjoined]
  | cardinality byRow =>
      obtain ⟨found, hfound, h⟩ := expression_cardinality_eq_ok_iff.1 h
      obtain ⟨found', hfound', h'⟩ := expression_cardinality_eq_ok_iff.1 h'
      have hjoined := h'.trans h.symm
      simp only [String.append_left_inj, String.append_right_inj] at hjoined
      have hfoundSub : found'.Sublist found := sublist_of_mapM_eq_ok (hsub.map _) hfound' hfound
      have hlength := (List.mapM_eq_ok_iff.1 hfound).length_eq
      have hlength' := (List.mapM_eq_ok_iff.1 hfound').length_eq
      have hfoundNe : found'.map (·.apiName) ≠ [] := by
        rintro hnil
        rw [List.map_eq_nil_iff.1 hnil, List.length_map] at hlength'
        exact hne (List.length_eq_zero_iff.1 hlength')
      have hnames := congrArg List.length
        (eq_of_sublist_of_intercalate_eq (by decide) (hfoundSub.map _) hfoundNe hjoined)
      simp only [List.length_map] at hnames hlength hlength'
      rw [hlength, hlength', hnames]
  | _ => exact nomatch harity

/-- A metric is only made again from its record if no name occurs twice. -/
theorem nodup_of_make_distinct (h : m.make terms name (deps.map Datum.text) = .ok metric)
    (h' : m.make terms name ((distinct deps).map Datum.text) = .ok metric) : deps.Nodup := by
  obtain ⟨hcount, e, he, hmetric⟩ := make_eq_ok_iff.1 h
  obtain ⟨hcount', e', he', hmetric'⟩ := make_eq_ok_iff.1 h'
  have hlength : (distinct deps).length = deps.length := by
    cases harity : m.arity with
    | exactly required =>
        rw [harity] at hcount hcount'
        exact Eq.trans hcount' (Eq.symm hcount)
    | atLeastOne =>
        rw [harity] at hcount'
        have hexpression : e' = e := by
          rw [← hmetric] at hmetric'
          exact congrArg Metric.expression hmetric'
        exact length_eq_of_expression_eq harity (distinct_sublist deps)
          (List.length_pos_iff.1 hcount') he (hexpression ▸ he')
  exact noRepeats_iff_nodup.1 (length_distinct_eq_iff.1 hlength)

/-- **The record of a metric.**  A metric that a maker makes of a list of names tells of equal names
the first, in their order.  So the record is the list exactly if no name occurs twice in it, and
exactly then the maker makes the same metric again from the record. -/
theorem make_dependencies_iff (h : m.make terms name (deps.map Datum.text) = .ok metric) :
    metric.dependencies = deps.eraseDups.map Scalar.text ∧
      (metric.dependencies = deps.map Scalar.text ↔ deps.Nodup) ∧
      (m.make terms name (metric.dependencies.map Datum.scalar) = .ok metric ↔ deps.Nodup) := by
  obtain ⟨-, e, -, hmetric⟩ := make_eq_ok_iff.1 h
  have hrecord : metric.dependencies = (distinct deps).map Scalar.text := by
    rw [← hmetric, ← distinct_map_text]
    rfl
  have hnodup : metric.dependencies = deps.map Scalar.text ↔ deps.Nodup := by
    have hinjective : Function.Injective Scalar.text := fun _ _ => Scalar.text.inj
    rw [hrecord, hinjective.list_map.eq_iff, distinct_eq_self_iff, noRepeats_iff_nodup]
  have hgiven : metric.dependencies.map Datum.scalar = (distinct deps).map Datum.text := by
    rw [hrecord, List.map_map]
    rfl
  refine ⟨by rw [hrecord, distinct_eq_eraseDups], hnodup, fun hagain => ?_, fun hdeps => ?_⟩
  · rw [hgiven] at hagain
    exact nodup_of_make_distinct h hagain
  · rwa [hgiven, distinct_eq_self_iff.2 (noRepeats_iff_nodup.2 hdeps)]

/-- A glossary with a metric and one with a dimension. -/
def addedAndPage : Terms :=
  ⟨⟨[("added", .make (.text "added") "longSum(added)" "" "General" [])]⟩,
    ⟨[("page", .make "page" "" "" "" [] [])]⟩⟩

/-- The ratio of a metric to itself tells of one dependency, from which it is not made again. -/
theorem make_dependencies_selfRatio :
    let m : Maker := ratio (.ofRat 1)
    let selfRatio : Metric := ⟨.text "self", "(added / added)", "", "General", [.text "added"]⟩
    m.make addedAndPage (.text "self") [.text "added", .text "added"] = .ok selfRatio ∧
      selfRatio.dependencies ≠ [.text "added", .text "added"] ∧
      m.make addedAndPage (.text "self") (selfRatio.dependencies.map Datum.scalar) =
        .error (.dependencyCount "RatioMaker" 2 (.text "self") 1) := by
  intro m selfRatio
  refine ⟨rfl, fun h => ?_, rfl⟩
  exact nomatch congrArg List.length h

/-- A metric, a dimension and a value of different names are recorded as they are given. -/
theorem make_dependencies_iff_pageAdded :
    let deps : List String := ["Added", "page", "Main"]
    ∃ metric, filteredAggregation.make addedAndPage (.text "onMain") (deps.map Datum.text) =
        .ok metric ∧ metric.dependencies = deps.map Scalar.text ∧
      filteredAggregation.make addedAndPage (.text "onMain")
        (metric.dependencies.map Datum.scalar) = .ok metric := by
  intro deps
  have hmake : filteredAggregation.make addedAndPage (.text "onMain") (deps.map Datum.text) =
      .ok ⟨.text "onMain", "filtered(longSum(added), page == 'Main')", "", "General",
        deps.map Scalar.text⟩ := by
    rfl
  obtain ⟨-, hrecord, hagain⟩ := make_dependencies_iff hmake
  exact ⟨_, hmake, hrecord.2 (by decide), hagain.2 (by decide)⟩

end Maker

end MetricQuery
