import MetricQuery.Proofs.Maker.Resolution
import MetricQuery.Proofs.Maker.Spelling

/-!
# The metrics that a maker refuses

A built-in maker refuses a metric for two reasons only.  The count of dependencies is wrong, or one
of them is not what the maker needs it to be: the name of a known metric or dimension, or the
literal of a number.  The count is checked first, and of several unfit dependencies the first one is
told of (`Maker.Refuses`).  So a maker makes a metric exactly if the count is right and all needs
are met (`Maker.make_refuses_iff`); in particular the expression never falls short of the
dependencies that it takes apart.

## Main definitions

* `Need`, `Need.Met` : what a dependency has to be, and whether it is.
* `Need.FirstUnmet` : the fault of the first dependency that is not what it has to be.
* `Maker.needs` : what a maker needs its dependencies to be.
* `Maker.Refuses` : the fault for which a maker refuses dependencies.
* `Fault.OfValue` : the faults of a value that is of the right kind.

## Main results

* `Maker.endsIn_expression`, `Maker.endsIn_make` : what the making of a metric ends in.
* `Template.className_of_build` : the maker of a built-in class.
* `Maker.make_refuses_iff` : the metrics that a built-in maker makes and refuses.
-/

namespace MetricQuery

/-- The faults of a value that is of the right kind: it is out of range, unknown or malformed. -/
def Fault.OfValue : Fault → Prop
  | .missing .. | .unexpected .. | .notIterable _ | .unhashable _ | .notOrdered _ | .clocksMixed
  | .noItemAssignment _ | .noNumber _ | .noAttribute .. | .unknownZone _ | .cannotAssign _
  | .cannotDelete _ | .notImplemented | .numberTooLarge => False
  | _ => True

/-! ### Needs -/

/-- What a dependency has to be. -/
inductive Need
  /-- The name of a metric. -/
  | metric (name : String)
  /-- The name of a dimension. -/
  | dimension (name : String)
  /-- The literal of a number. -/
  | number (literal : String)

namespace Need

/-- The name is known to the glossaries, or the literal spells a number. -/
def Met (terms : Terms) : Need → Prop
  | metric name => ∃ found, terms.metrics.get? name = some found
  | dimension name => ∃ found, terms.dimensions.get? name = some found
  | number literal => ∃ x, Literal.readBinary64? literal.toList = some x

/-- The fault of a dependency that is not what it has to be. -/
def fault : Need → Fault
  | metric name => .metricUnknown name
  | dimension name => .dimensionUnknown name
  | number literal => .notNumber literal

/-- The fault of the first need that is not met. -/
inductive FirstUnmet (terms : Terms) : List Need → Fault → Prop
  | here {need : Need} (rest : List Need) (h : ¬ need.Met terms) :
      FirstUnmet terms (need :: rest) need.fault
  | later {need : Need} {rest : List Need} {fault : Fault} (h : need.Met terms)
      (hrest : FirstUnmet terms rest fault) : FirstUnmet terms (need :: rest) fault

section FirstUnmet

variable {terms : Terms} {needs more : List Need} {fault fault' : Fault}

theorem FirstUnmet.not_all_met (h : FirstUnmet terms needs fault) :
    ¬ ∀ need ∈ needs, need.Met terms := by
  induction h with
  | here rest h => exact fun hall => h (hall _ List.mem_cons_self)
  | later _ _ ih => exact fun hall => ih (List.forall_mem_cons.1 hall).2

theorem FirstUnmet.unique (h : FirstUnmet terms needs fault) (h' : FirstUnmet terms needs fault') :
    fault = fault' := by
  induction h with
  | here rest h =>
      cases h' with
      | here => rfl
      | later hmet => exact absurd hmet h
  | later hmet _ ih =>
      cases h' with
      | here _ h => exact absurd hmet h
      | later _ h' => exact ih h'

theorem FirstUnmet.append (h : FirstUnmet terms needs fault) (more : List Need) :
    FirstUnmet terms (needs ++ more) fault := by
  induction h with
  | here rest h => exact .here (rest ++ more) h
  | later hmet _ ih => exact .later hmet ih

theorem FirstUnmet.behind (hmet : ∀ need ∈ needs, need.Met terms)
    (h : FirstUnmet terms more fault) : FirstUnmet terms (needs ++ more) fault := by
  induction needs with
  | nil => exact h
  | cons need needs ih =>
      obtain ⟨hneed, hneeds⟩ := List.forall_mem_cons.1 hmet
      exact .later hneed (ih hneeds)

theorem FirstUnmet.exists_need (h : FirstUnmet terms needs fault) :
    ∃ need ∈ needs, need.fault = fault := by
  induction h with
  | @here need rest h => exact ⟨need, List.mem_cons_self, rfl⟩
  | later _ _ ih =>
      obtain ⟨need, hneed, hfault⟩ := ih
      exact ⟨need, List.mem_cons_of_mem _ hneed, hfault⟩

end FirstUnmet

/-! ### Computations that settle needs -/

/-- A computation succeeds if all needs are met, and fails with the fault of the first one that is
not. -/
abbrev Settles {α : Type} (terms : Terms) (needs : List Need) (x : Except Fault α) : Prop :=
  x.EndsIn (FirstUnmet terms needs) fun _ => ∀ need ∈ needs, need.Met terms

section Settles

variable {α β : Type} {terms : Terms} {needs more : List Need}

theorem Settles.bind {x : Except Fault α} {f : α → Except Fault β} (hx : Settles terms needs x)
    (hf : ∀ a, Settles terms more (f a)) : Settles terms (needs ++ more) (x >>= f) := by
  cases x with
  | error fault => exact FirstUnmet.append hx more
  | ok a =>
      refine (hf a).mono (fun fault h => h.behind hx) fun b hmore need hneed => ?_
      exact (List.mem_append.1 hneed).elim (hx need) (hmore need)

theorem settles_ok (a : α) : Settles terms [] (.ok a : Except Fault α) :=
  Except.endsIn_ok (fun _ h => absurd h List.not_mem_nil)

/-- A computation whose value is only put into a text settles the same needs. -/
theorem Settles.bind_ok {x : Except Fault α} (hx : Settles terms needs x) (f : α → β) :
    Settles terms needs (x >>= fun a => .ok (f a)) := by
  have h := hx.bind fun a => settles_ok (f a)
  rwa [List.append_nil] at h

/-- Dependencies that are settled one by one are settled together. -/
theorem settles_mapM {γ : Type} {f : α → Except Fault β} {need : γ → Need} {dep : γ → α}
    (h : ∀ c, Settles terms [need c] (f (dep c))) (cs : List γ) :
    Settles terms (cs.map need) ((cs.map dep).mapM f) := by
  induction cs with
  | nil => exact settles_ok []
  | cons c cs ih =>
      rw [List.map_cons, List.map_cons, List.mapM_cons]
      exact (h c).bind fun _ => ih.bind_ok _

/-- A computation that ends in what a look-up finds settles the need that something is found. -/
theorem settles_lookup {x : Except Fault α} {need : Need} {found : Option α}
    (hneed : need.Met terms ↔ ∃ a, found = some a) (hnone : found = none → x = .error need.fault)
    (hsome : ∀ a, found = some a → x = .ok a) : Settles terms [need] x := by
  cases hfound : found with
  | none =>
      rw [hnone hfound]
      exact Except.endsIn_error (.here [] (by simp [hneed, hfound]))
  | some a =>
      rw [hsome a hfound]
      exact Except.endsIn_ok (List.forall_mem_singleton.2 (hneed.2 ⟨a, hfound⟩))

theorem settles_metric (name : String) :
    Settles terms [.metric name] (terms.metric (.text name)) := by
  have hread : (Datum.text name).readText = pure name := rfl
  refine settles_lookup Iff.rfl (fun h => ?_) fun metric h => ?_
  all_goals
    simp only [Terms.metric, hread, pure_bind, h]
    rfl

theorem settles_dimension (name : String) :
    Settles terms [.dimension name] (terms.dimension (.text name)) := by
  have hread : (Datum.text name).readText = pure name := rfl
  refine settles_lookup Iff.rfl (fun h => ?_) fun dimension h => ?_
  all_goals
    simp only [Terms.dimension, hread, pure_bind, h]
    rfl

theorem settles_number (literal : String) :
    Settles terms [.number literal] (Datum.text literal).readNumber := by
  refine settles_lookup Iff.rfl (fun h => ?_) fun x h => ?_
  all_goals simp only [Datum.readNumber, h, Need.fault]

end Settles

end Need

namespace Maker

/-! ### Needs of makers -/

/-- What a maker needs its dependencies to be, in their order.  It takes the others as they are. -/
def needs : Maker → List String → List Need
  | arithmetic _, deps | ratio _, deps | aggregationAverage _, deps => deps.map .metric
  | cardinality _, deps => deps.map .dimension
  | filteredAggregation, [metric, dimension, _] => [.metric metric, .dimension dimension]
  | constant, deps => deps.map .number
  | _, _ => []

/-- The fault of a wrong count of dependencies. -/
def countFault (m : Maker) (name : Scalar) (given : Nat) : Fault :=
  match m.arity with
  | .atLeastOne => .dependenciesMissing m.className name
  | .exactly required => .dependencyCount m.className required name given

/-- The fault for which a maker refuses dependencies: of their count, else of the first one that is
not what the maker needs it to be. -/
inductive Refuses (m : Maker) (terms : Terms) (name : Scalar) (deps : List String) : Fault → Prop
  | count (h : ¬ m.arity.Admits deps.length) :
      Refuses m terms name deps (m.countFault name deps.length)
  | need {fault : Fault} (hcount : m.arity.Admits deps.length)
      (h : Need.FirstUnmet terms (m.needs deps) fault) : Refuses m terms name deps fault

/-- The makers of built-in classes. -/
def IsBuiltIn (m : Maker) : Prop :=
  m.className ∈ MakerClass.builtIn.map MakerClass.name

instance : DecidablePred IsBuiltIn := fun m =>
  inferInstanceAs (Decidable (m.className ∈ MakerClass.builtIn.map MakerClass.name))

section Refuses

variable {m : Maker} {terms : Terms} {name : Scalar} {deps : List String} {fault fault' : Fault}

theorem Refuses.unique (h : m.Refuses terms name deps fault)
    (h' : m.Refuses terms name deps fault') : fault = fault' := by
  cases h with
  | count h =>
      cases h' with
      | count => rfl
      | need hcount => exact absurd hcount h
  | need hcount h =>
      cases h' with
      | count h' => exact absurd hcount h'
      | need _ h' => exact h.unique h'

theorem Refuses.not_met (h : m.Refuses terms name deps fault) :
    ¬ (m.arity.Admits deps.length ∧ ∀ need ∈ m.needs deps, need.Met terms) := by
  rintro ⟨hcount, hmet⟩
  cases h with
  | count h => exact h hcount
  | need _ h => exact h.not_all_met hmet

theorem Refuses.ofValue (h : m.Refuses terms name deps fault) : fault.OfValue := by
  cases h with
  | count h =>
      rw [countFault]
      cases m.arity <;> trivial
  | need _ h =>
      obtain ⟨need, -, rfl⟩ := h.exists_need
      cases need <;> trivial

theorem checkCount_eq_error (h : ¬ m.arity.Admits deps.length) :
    m.checkCount name deps.length = .error (m.countFault name deps.length) := by
  rw [checkCount, countFault]
  cases harity : m.arity with
  | atLeastOne =>
      rw [harity] at h
      exact if_pos (Nat.eq_zero_of_not_pos h)
  | exactly required =>
      rw [harity] at h
      exact if_neg h

/-! ### Making -/

theorem endsIn_ratio (scale : Binary64) (numerator denominator : String) :
    Need.Settles terms [.metric numerator, .metric denominator]
      (ratioExpression scale terms (.text numerator) (.text denominator)) :=
  (Need.settles_metric numerator).bind fun _ => (Need.settles_metric denominator).bind_ok _

/-- The expression of a built-in maker settles its needs, if the count of dependencies is right. -/
theorem endsIn_expression (hm : m.IsBuiltIn) (hcount : m.arity.Admits deps.length) :
    Need.Settles terms (m.needs deps) (m.expression terms (deps.map Datum.text)) := by
  cases m with
  | longSum | doubleSum | thetaSketch _ =>
      obtain ⟨d, rfl⟩ := List.length_eq_one_iff.1 hcount
      exact Need.settles_ok _
  | count | rowNum =>
      obtain rfl := List.length_eq_zero_iff.1 hcount
      exact Need.settles_ok _
  | constant =>
      obtain ⟨d, rfl⟩ := List.length_eq_one_iff.1 hcount
      exact (Need.settles_number d).bind_ok _
  | arithmetic function => exact (Need.settles_mapM Need.settles_metric deps).bind_ok _
  | ratio scale =>
      obtain ⟨numerator, denominator, rfl⟩ := List.length_eq_two.1 hcount
      exact endsIn_ratio scale numerator denominator
  | aggregationAverage grain =>
      obtain ⟨d, rfl⟩ := List.length_eq_one_iff.1 hcount
      exact (Need.settles_metric d).bind_ok _
  | cardinality byRow => exact (Need.settles_mapM Need.settles_dimension deps).bind_ok _
  | filteredAggregation =>
      obtain ⟨metric, dimension, value, rfl⟩ := List.length_eq_three.1 hcount
      exact (Need.settles_metric metric).bind fun _ => (Need.settles_dimension dimension).bind_ok _
  | base | metricBacked | dimensionBacked => exact absurd hm (by decide)

/-- The making of a metric ends in a metric if the count is right and all needs are met, else in the
fault for which the dependencies are refused. -/
theorem endsIn_make (hm : m.IsBuiltIn) :
    (m.make terms name (deps.map Datum.text)).EndsIn (m.Refuses terms name deps) fun _ =>
      m.arity.Admits deps.length ∧ ∀ need ∈ m.needs deps, need.Met terms := by
  rw [make, List.length_map, Datum.distinctScalars_texts]
  by_cases hcount : m.arity.Admits deps.length
  · rw [checkCount_eq_ok_iff.2 hcount]
    have hexpression :
        Need.Settles terms (m.needs deps) (m.expression terms (deps.map Datum.text)) :=
      endsIn_expression hm hcount
    cases he : m.expression terms (deps.map Datum.text) with
    | error fault => exact Except.endsIn_error (.need hcount (hexpression.fault he))
    | ok e => exact Except.endsIn_ok ⟨hcount, hexpression.value he⟩
  · rw [checkCount_eq_error hcount]
    exact Except.endsIn_error (.count hcount)

end Refuses

end Maker

/-! ### Makers of built-in classes -/

/-- The maker that a class of the package builds is of this class. -/
theorem MakerClass.className_of_construct {c : MakerClass} {args : Parameter.Arguments c.parameters}
    {m : Maker} (h : c.construct args = .ok m) : m.className = c.name := by
  fun_cases construct c args
  -- The two cases of an arithmetic function, which may be unknown.
  case case8 function f hfunction =>
      simp only [construct, hfunction] at h
      obtain rfl := Except.ok.inj h
      rfl
  case case9 function hfunction =>
      simp only [construct, hfunction] at h
      exact nomatch h
  all_goals
    obtain rfl := Except.ok.inj h
    rfl

/-- The maker that a template with the name of a built-in class describes is of this class. -/
theorem Template.className_of_build {outside : List Module} {t : Template} {b : AnyMaker}
    (hpath : t.classPath ∈ MakerClass.builtIn.map MakerClass.name)
    (h : t.build outside = .ok b) : ∃ m, b = .own m ∧ m.className = t.classPath := by
  obtain ⟨c, hc, hname⟩ := List.mem_map.1 hpath
  rw [build_of_builtIn hc hname.symm, Except.mapError_eq_ok_iff, Except.map_eq_ok_iff] at h
  obtain ⟨m, hm, rfl⟩ := h
  obtain ⟨args, -, hargs⟩ := Except.bind_eq_ok_iff.1 hm
  exact ⟨m, rfl, (MakerClass.className_of_construct hargs).trans hname⟩

/-! ### Metrics that are made and refused -/

namespace Maker

/-- **The metrics that a maker refuses.**  If a template with the name of a built-in class is built,
the maker is one of this class.  Take any names as its dependencies, whatever the glossaries hold.
The maker makes a metric exactly if the count is right and every dependency is what the maker needs
it to be.  Otherwise it refuses them: for their count if that is wrong, else for the first
dependency that is not what it has to be.  The fault is one of a value in each case. -/
theorem make_refuses_iff {outside : List Module} {t : Template} {b : AnyMaker}
    (hpath : t.classPath ∈ MakerClass.builtIn.map MakerClass.name)
    (hbuild : t.build outside = .ok b) :
    ∃ m, b = .own m ∧ m.className = t.classPath ∧
      ∀ (terms : Terms) (name : Scalar) (deps : List String),
      ((∃ metric, m.make terms name (deps.map Datum.text) = .ok metric) ↔
        m.arity.Admits deps.length ∧ ∀ need ∈ m.needs deps, need.Met terms) ∧
      (∀ fault, m.make terms name (deps.map Datum.text) = .error fault ↔
        m.Refuses terms name deps fault) ∧
      ∀ fault, m.make terms name (deps.map Datum.text) = .error fault → fault.OfValue := by
  obtain ⟨m, rfl, hclass⟩ := Template.className_of_build hpath hbuild
  have hbuiltIn : m.IsBuiltIn := by rwa [IsBuiltIn, hclass]
  refine ⟨m, rfl, hclass, fun terms name deps => ?_⟩
  have hends : (m.make terms name (deps.map Datum.text)).EndsIn (m.Refuses terms name deps) fun _ =>
      m.arity.Admits deps.length ∧ ∀ need ∈ m.needs deps, need.Met terms := endsIn_make hbuiltIn
  refine ⟨?_, fun fault => ?_, fun fault hmake => (hends.fault hmake).ofValue⟩
  · constructor
    · rintro ⟨metric, hmetric⟩
      exact hends.value hmetric
    · intro hmet
      cases hmake : m.make terms name (deps.map Datum.text) with
      | error fault => exact absurd hmet (hends.fault hmake).not_met
      | ok metric => exact ⟨metric, rfl⟩
  · constructor
    · intro hmake
      exact hends.fault hmake
    · intro hrefuses
      cases hmake : m.make terms name (deps.map Datum.text) with
      | error fault' => rw [(hends.fault hmake).unique hrefuses]
      | ok metric => exact absurd (hends.value hmake) hrefuses.not_met

/-- A maker that restricts a metric to a dimension with a value is told of an unknown metric before
an unknown dimension, and of a wrong count before both. -/
theorem make_refuses_iff_pageAdded :
    let t : Template := ⟨"onPage", "FilteredAggregationMaker", []⟩
    let name : Scalar := .text "onMain"
    t.classPath ∈ MakerClass.builtIn.map MakerClass.name ∧
      t.build [] = .ok (.own filteredAggregation) ∧
      (∃ metric, filteredAggregation.make addedAndPage name
        (["ADDED", "page", "Main"].map Datum.text) = .ok metric) ∧
      filteredAggregation.make addedAndPage name (["gone", "nowhere", "Main"].map Datum.text) =
        .error (.metricUnknown "gone") ∧
      filteredAggregation.make addedAndPage name (["gone", "nowhere"].map Datum.text) =
        .error (.dependencyCount "FilteredAggregationMaker" 3 name 2) := by
  intro t name
  have hpath : t.classPath ∈ MakerClass.builtIn.map MakerClass.name := by decide
  have hbuild : t.build [] = .ok (.own filteredAggregation) := rfl
  obtain ⟨_, ⟨⟩, -, hmake⟩ := make_refuses_iff hpath hbuild
  refine ⟨hpath, hbuild, ?_, ?_, ?_⟩
  · obtain ⟨hmade, -⟩ := hmake addedAndPage name ["ADDED", "page", "Main"]
    exact hmade.2 ⟨rfl, by simpa [needs, Need.Met] using ⟨⟨_, rfl⟩, ⟨_, rfl⟩⟩⟩
  · obtain ⟨-, hrefused, -⟩ := hmake addedAndPage name ["gone", "nowhere", "Main"]
    exact (hrefused _).2 (.need rfl (.here _ fun ⟨_, hfound⟩ => nomatch hfound))
  · obtain ⟨-, hrefused, -⟩ := hmake addedAndPage name ["gone", "nowhere"]
    have hcount : ¬ filteredAggregation.arity.Admits 2 := show (2 : Nat) ≠ 3 by decide
    exact (hrefused _).2 (.count hcount)

end Maker

end MetricQuery
