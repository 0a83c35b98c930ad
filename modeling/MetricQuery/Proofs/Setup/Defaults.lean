import MetricQuery.Proofs.Spec.Congruence
import MetricQuery.Setup.Settings

/-!
# Defaults from settings

A specification is built with a format, a zone and a threshold.  What is missing of the three is
taken from the settings, and what is given is not looked up.  So the settings matter only where they
stand in for something missing (`Spec.build_congr`), and a setting that cannot be read is noticed
only there.  Faults say where they come from: those of the format, of the zone and of collections
are different, and the first of them counts.

## Main definitions

* `Fault.source?` : what a fault of a construction is about.
* `Spec.Choices.Fit` : collections that a specification can be made from.
* `givenOr`, `Settings.thresholdOr` : what is given, else a default.

## Main results

* `Spec.endsIn_make` : the faults of a construction from given parts.
* `Spec.build_congr` : settings that agree where something is missing.
* `Spec.exists_build_eq_ok_iff` : when a construction with defaults succeeds.
* `Spec.build_eq_formatFault_iff`, `Spec.build_eq_zoneFault_iff` : when an unusable default counts.
* `Spec.exists_build_eq_ok_iff_of_unset` : settings that nothing is assigned to.
* `Spec.build_consults_missing` : the use of settings as a whole.
-/

namespace MetricQuery

/-! ### Faults and their sources -/

/-- What a fault of a construction can be about. -/
inductive Fault.Source
  | collection
  | format
  | zone

/-- What a fault is about, if it is one of those that a construction ends in. -/
def Fault.source? : Fault → Option Source
  | .notIterable _ | .noAttribute .. | .unhashable _ => some .collection
  | .unknownFormat _ => some .format
  | .zoneKeyAbsolute _ | .zoneKeyNotNormal _ | .zoneKeyOutside _ | .unknownZone _ => some .zone
  | _ => none

theorem ResponseFormat.endsIn_read (s : String) :
    (read s).EndsIn (·.source? = some .format) fun _ => True := by
  rw [read]
  split
  · exact Except.endsIn_ok trivial
  · exact Except.endsIn_error rfl

theorem Zone.endsIn_read (zones : ZoneDatabase) (key : String) :
    (read zones key).EndsIn (·.source? = some .zone) fun _ => True := by
  rw [read]
  split
  · exact Except.endsIn_error rfl
  split
  · exact Except.endsIn_error rfl
  split
  · exact Except.endsIn_error rfl
  split
  · exact Except.endsIn_ok trivial
  · exact Except.endsIn_error rfl

/-- Universal time is always installed. -/
theorem Zone.read_utc (zones : ZoneDatabase) : read zones "UTC" = .ok ⟨"UTC"⟩ := by
  have hlength : ¬ normalLength "UTC" ≠ "UTC".length := by decide +kernel
  have hinside : ¬ ((normalParts "UTC").head?.all (· = ['.', '.'])) = true := by decide +kernel
  rw [read, if_neg (by decide +kernel), if_neg hlength, if_neg hinside,
    if_pos (List.contains_iff_mem.2 zones.utc_mem)]

section Given

variable {α : Type}

theorem Datum.endsIn_elements (d : Datum) :
    d.elements.EndsIn (·.source? = some .collection) fun _ => True := by
  cases d with
  | scalar s => cases s <;> first | exact Except.endsIn_ok trivial | exact Except.endsIn_error rfl
  | date _ | instant _ | cycle _ => exact Except.endsIn_error rfl
  | _ => exact Except.endsIn_ok trivial

theorem Given.endsIn_elements (g : Given α) :
    g.elements.EndsIn (·.source? = some .collection) fun _ => True := by
  cases g with
  | items xs => exact Except.endsIn_ok trivial
  | loose d => exact d.endsIn_elements.map fun _ _ => trivial

theorem Given.endsIn_elementsOrNone (g : Given α) :
    g.elementsOrNone.EndsIn (·.source? = some .collection) fun _ => True := by
  cases g with
  | items xs => exact Except.endsIn_ok trivial
  | loose d =>
      rw [elementsOrNone]
      split
      · exact Except.endsIn_ok trivial
      · exact endsIn_elements _

theorem Given.endsIn_entriesOrNone (g : Given α Datum.Entryless) :
    g.entriesOrNone.EndsIn (·.source? = some .collection) fun _ => True := by
  cases g with
  | items xs => exact Except.endsIn_ok trivial
  | loose d =>
      rw [entriesOrNone]
      split
      · exact Except.endsIn_ok trivial
      · exact Except.endsIn_error rfl

theorem Given.endsIn_elementsWithOrNone {Loose : Datum → Prop} (g : Given α Loose)
    (member : String) :
    (g.elementsWithOrNone member).EndsIn (·.source? = some .collection) fun _ => True := by
  cases g with
  | items xs => exact Except.endsIn_ok trivial
  | loose d =>
      rw [elementsWithOrNone]
      split
      · exact Except.endsIn_ok trivial
      · refine d.endsIn_elements.bind fun elements _ => ?_
        cases elements with
        | nil => exact Except.endsIn_ok trivial
        | cons _ _ => exact Except.endsIn_error rfl

end Given

theorem Having.endsIn_checkMember (h : Having) :
    h.checkMember.EndsIn (·.source? = some .collection) fun _ => True := by
  refine Except.EndsIn.forM fun value _ => ?_
  cases value <;> first | exact Except.endsIn_ok trivial | exact Except.endsIn_error rfl

namespace Spec

theorem endsIn_normalFields (given : Given (Dimension × Given DimensionField) Datum.Entryless) :
    (normalFields given).EndsIn (·.source? = some .collection) fun _ => True := by
  refine given.endsIn_entriesOrNone.bind fun entries _ => ?_
  refine (Except.EndsIn.mapM (Q := fun _ => True) fun e _ => ?_).faults
  exact e.2.endsIn_elementsOrNone.bind fun _ _ => Except.endsIn_ok trivial

theorem endsIn_normalFilters (given : GivenFilters) :
    (normalFilters given).EndsIn (·.source? = some .collection) fun _ => True := by
  cases given with
  | grouped groups =>
      refine (Except.EndsIn.mapM (Q := fun _ => True) fun e _ => ?_).faults
      exact e.2.endsIn_elements.bind fun _ _ => Except.endsIn_ok trivial
  | flat filters =>
      exact (filters.endsIn_elementsWithOrNone _).bind fun _ _ => Except.endsIn_ok trivial

theorem endsIn_normalHavings (given : Given (Metric × Given Having) Datum.Entryless) :
    (normalHavings given).EndsIn (·.source? = some .collection) fun _ => True := by
  refine given.endsIn_entriesOrNone.bind fun entries _ => ?_
  refine (Except.EndsIn.mapM (Q := fun _ => True) fun e _ => ?_).faults
  refine e.2.endsIn_elements.bind fun members _ => ?_
  exact (Except.EndsIn.forM fun h _ => h.endsIn_checkMember).bind fun _ _ =>
    Except.endsIn_ok trivial

/-- A construction from given parts fails at a collection, if at all. -/
theorem endsIn_make (p : Parts) : (make p).EndsIn (·.source? = some .collection) fun _ => True :=
  p.dimensions.endsIn_elementsOrNone.bind fun _ _ =>
    (endsIn_normalFields _).bind fun _ _ =>
      p.metrics.endsIn_elementsOrNone.bind fun _ _ =>
        p.intervals.endsIn_elementsOrNone.bind fun _ _ =>
          (endsIn_normalFilters _).bind fun _ _ =>
            (endsIn_normalHavings _).bind fun _ _ =>
              p.allSorts.endsIn_elementsOrNone.bind fun _ _ => Except.endsIn_ok trivial

/-! ### Collections that fit -/

/-- Collections that a specification can be made from, whatever is given besides them. -/
def Choices.Fit (choices : Choices) : Prop :=
  ∃ (p : Parts) (s : Spec), p.toChoices = choices ∧ make p = .ok s

theorem exists_make_eq_ok_iff_fit {p : Parts} : (∃ s, make p = .ok s) ↔ p.toChoices.Fit := by
  constructor
  · rintro ⟨s, hs⟩
    exact ⟨p, s, rfl, hs⟩
  · rintro ⟨q, s, hchoices, hs⟩
    cases p
    cases q
    obtain rfl := hchoices
    -- The facets outside the collections take any value, the others have the parts of `q`.
    refine exists_make_eq_ok fun f => ?_
    have hf := stored_of_make hs f
    cases f with
    | table | granularity | format | timeZone | asyncAfter => exact ⟨_, rfl⟩
    | _ => exact ⟨_, hf⟩

end Spec

/-! ### Defaults -/

theorem Datum.beq_null_iff {d : Datum} : (d == .null) = true ↔ d = .null := by
  cases d with
  | scalar s =>
      have hbeq : (Datum.scalar s == .null) = (s == .null) := rfl
      rw [hbeq, Scalar.beq_iff]
      cases s with
      | float x => cases x <;> simp [Scalar.denotation]
      | _ => simp [Scalar.denotation]
  | _ => exact iff_of_false Bool.false_ne_true (by simp)

/-- What is given, else what a default is read as. -/
def givenOr {α : Type} (given : Option α) (default : Except Fault α) : Except Fault α :=
  given.elim default .ok

section GivenOr

variable {α : Type} {given : Option α} {default default' : Except Fault α} {fault : Fault}

@[simp] theorem givenOr_none : givenOr none default = default :=
  Option.elim_none ..

@[simp] theorem givenOr_some (value : α) : givenOr (some value) default = .ok value :=
  Option.elim_some ..

/-- A default matters only where nothing is given. -/
theorem givenOr_congr (h : given = none → default = default') :
    givenOr given default = givenOr given default' := by
  cases given with
  | none => rw [h rfl]
  | some value => rw [givenOr_some, givenOr_some]

theorem givenOr_eq_error_iff :
    givenOr given default = .error fault ↔ given = none ∧ default = .error fault := by
  cases given with
  | none => rw [givenOr_none, and_iff_right rfl]
  | some value => simp

theorem exists_givenOr_eq_ok_iff :
    (∃ value, givenOr given default = .ok value) ↔
      (given = none → ∃ value, default = .ok value) := by
  cases given with
  | none => rw [givenOr_none, forall_prop_of_true rfl]
  | some value => simp

end GivenOr

namespace Settings

/-- The threshold that is given, else the default one. -/
def thresholdOr (settings : Settings) (asyncAfter : Datum) : Datum :=
  if asyncAfter == .null then .int settings.defaultAsyncAfter else asyncAfter

variable {settings : Settings} {asyncAfter : Datum}

@[simp] theorem thresholdOr_null : settings.thresholdOr .null = .int settings.defaultAsyncAfter :=
  if_pos (Datum.beq_null_iff.2 rfl)

theorem thresholdOr_of_ne (h : asyncAfter ≠ .null) :
    settings.thresholdOr asyncAfter = asyncAfter :=
  if_neg fun hnull => h (Datum.beq_null_iff.1 hnull)

end Settings

/-! ### Construction with defaults -/

namespace Spec

section Build

variable {zones : ZoneDatabase} {settings settings' : Settings} {table : Table}
  {granularity : Granularity} {format : Option ResponseFormat} {timeZone : Option Zone}
  {asyncAfter : Datum} {choices : Choices} {s : Spec} {fault : Fault}

/-- A specification is made from what is given and the defaults for the rest. -/
theorem build_eq :
    build zones settings table granularity format timeZone asyncAfter choices = (do
      let f ← givenOr format (ResponseFormat.read settings.defaultFormat)
      let z ← givenOr timeZone (Zone.read zones settings.defaultTimeZone)
      make { choices with
        table, granularity, format := f, timeZone := z,
        asyncAfter := settings.thresholdOr asyncAfter }) :=
  rfl

/-- Settings that agree where something is missing lead to the same outcome. -/
theorem build_congr
    (hformat : format = none → settings.defaultFormat = settings'.defaultFormat)
    (hzone : timeZone = none → settings.defaultTimeZone = settings'.defaultTimeZone)
    (hafter : asyncAfter = .null → settings.defaultAsyncAfter = settings'.defaultAsyncAfter) :
    build zones settings table granularity format timeZone asyncAfter choices =
      build zones settings' table granularity format timeZone asyncAfter choices := by
  have hthreshold : settings.thresholdOr asyncAfter = settings'.thresholdOr asyncAfter := by
    by_cases hnull : asyncAfter = .null
    · rw [hnull, Settings.thresholdOr_null, Settings.thresholdOr_null, hafter hnull]
    · rw [Settings.thresholdOr_of_ne hnull, Settings.thresholdOr_of_ne hnull]
  rw [build_eq, build_eq, hthreshold,
    givenOr_congr fun hnone => congrArg ResponseFormat.read (hformat hnone),
    givenOr_congr fun hnone => congrArg (Zone.read zones) (hzone hnone)]

/-- A construction succeeds exactly if each default that stands in for something missing can be read
and the collections fit. -/
theorem exists_build_eq_ok_iff :
    (∃ s, build zones settings table granularity format timeZone asyncAfter choices = .ok s) ↔
      (format = none → ∃ f, ResponseFormat.read settings.defaultFormat = .ok f) ∧
      (timeZone = none → ∃ z, Zone.read zones settings.defaultTimeZone = .ok z) ∧
      choices.Fit := by
  simp only [← exists_givenOr_eq_ok_iff, build_eq, Except.bind_eq_ok_iff]
  constructor
  · rintro ⟨s, f, hf, z, hz, hs⟩
    exact ⟨⟨f, hf⟩, ⟨z, hz⟩, exists_make_eq_ok_iff_fit.1 ⟨s, hs⟩⟩
  · rintro ⟨⟨f, hf⟩, ⟨z, hz⟩, hfit⟩
    have hmake : ∃ s, make { choices with
        table, granularity, format := f, timeZone := z,
        asyncAfter := settings.thresholdOr asyncAfter } = .ok s :=
      exists_make_eq_ok_iff_fit.2 hfit
    obtain ⟨s, hs⟩ := hmake
    exact ⟨s, f, hf, z, hz, hs⟩

/-- The threshold of a specification is the given one, whatever it is, and else the default one. -/
theorem asyncAfter_of_build
    (h : build zones settings table granularity format timeZone asyncAfter choices = .ok s) :
    s.asyncAfter = settings.thresholdOr asyncAfter := by
  simp only [build_eq, Except.bind_eq_ok_iff] at h
  obtain ⟨f, -, z, -, hs⟩ := h
  exact (Except.ok.inj (stored_of_make hs .asyncAfter)).symm

/-- A construction fails at the format, behind it at the zone, and behind both at a collection. -/
theorem build_eq_error_iff :
    build zones settings table granularity format timeZone asyncAfter choices = .error fault ↔
      (format = none ∧ ResponseFormat.read settings.defaultFormat = .error fault) ∨
      ∃ f, givenOr format (ResponseFormat.read settings.defaultFormat) = .ok f ∧
        ((timeZone = none ∧ Zone.read zones settings.defaultTimeZone = .error fault) ∨
          ∃ z, givenOr timeZone (Zone.read zones settings.defaultTimeZone) = .ok z ∧
            make { choices with
              table, granularity, format := f, timeZone := z,
              asyncAfter := settings.thresholdOr asyncAfter } = .error fault) := by
  simp only [build_eq, Except.bind_eq_error_iff, givenOr_eq_error_iff]

/-- A default format that cannot be read counts exactly if no format is given. -/
theorem build_eq_formatFault_iff
    (hfault : ResponseFormat.read settings.defaultFormat = .error fault) :
    build zones settings table granularity format timeZone asyncAfter choices = .error fault ↔
      format = none := by
  have hsource := (ResponseFormat.endsIn_read _).fault hfault
  rw [build_eq_error_iff]
  constructor
  · rintro (⟨hnone, -⟩ | ⟨_, -, ⟨-, hzone⟩ | ⟨_, -, hmake⟩⟩)
    · exact hnone
    · exact nomatch hsource.symm.trans ((Zone.endsIn_read _ _).fault hzone)
    · exact nomatch hsource.symm.trans ((endsIn_make _).fault hmake)
  · exact fun hnone => .inl ⟨hnone, hfault⟩

/-- A default zone that cannot be read counts exactly if no zone is given and there is a format. -/
theorem build_eq_zoneFault_iff (hfault : Zone.read zones settings.defaultTimeZone = .error fault) :
    build zones settings table granularity format timeZone asyncAfter choices = .error fault ↔
      timeZone = none ∧
        (format = none → ∃ f, ResponseFormat.read settings.defaultFormat = .ok f) := by
  have hsource := (Zone.endsIn_read _ _).fault hfault
  rw [← exists_givenOr_eq_ok_iff, build_eq_error_iff]
  constructor
  · rintro (⟨-, hformat⟩ | ⟨f, hf, ⟨hnone, -⟩ | ⟨_, -, hmake⟩⟩)
    · exact nomatch hsource.symm.trans ((ResponseFormat.endsIn_read _).fault hformat)
    · exact ⟨hnone, f, hf⟩
    · exact nomatch hsource.symm.trans ((endsIn_make _).fault hmake)
  · rintro ⟨hnone, f, hf⟩
    exact .inr ⟨f, hf, .inl ⟨hnone, hfault⟩⟩

/-- Settings that nothing is assigned to stand in for everything that is missing, whichever zones
are installed. -/
theorem exists_build_eq_ok_iff_of_unset {root : String}
    (hload : Settings.load root [] none = .ok settings) :
    (∃ s, build zones settings table granularity none none .null choices = .ok s) ↔
      choices.Fit := by
  obtain rfl := Except.ok.inj hload
  have hformat : ResponseFormat.read "json" = .ok .json := rfl
  rw [exists_build_eq_ok_iff]
  exact ⟨fun h => h.2.2, fun h => ⟨fun _ => ⟨_, hformat⟩, fun _ => ⟨_, Zone.read_utc zones⟩, h⟩⟩

end Build

/-- **Settings stand in for what is missing**, and are not looked at otherwise.  Let a specification
be built with a format, a zone, a threshold, each of which may be missing, and any collections, and
let any zones be installed.

* Settings that agree on the defaults of what is missing lead to the same specification or to the
  same fault.
* If nothing is missing, the specification is made from what is given.
* A threshold that is given stays as it is, zero too; a missing one is the default one.
* A specification is built exactly if each default that stands in for a missing format or zone can
  be read and the collections fit.
* A default format that cannot be read is the fault exactly if no format is given.
* A default zone that cannot be read is the fault exactly if no zone is given, and there is a
  format: that the default format cannot be read comes first. -/
theorem build_consults_missing (zones : ZoneDatabase) (table : Table) (granularity : Granularity)
    (format : Option ResponseFormat) (timeZone : Option Zone) (asyncAfter : Datum)
    (choices : Choices) :
    (∀ settings settings' : Settings,
      (format = none → settings.defaultFormat = settings'.defaultFormat) →
      (timeZone = none → settings.defaultTimeZone = settings'.defaultTimeZone) →
      (asyncAfter = .null → settings.defaultAsyncAfter = settings'.defaultAsyncAfter) →
      build zones settings table granularity format timeZone asyncAfter choices =
        build zones settings' table granularity format timeZone asyncAfter choices) ∧
    ∀ settings : Settings,
      let built := build zones settings table granularity format timeZone asyncAfter choices
      (∀ f z, format = some f → timeZone = some z → asyncAfter ≠ .null →
        built =
          make { choices with table, granularity, format := f, timeZone := z, asyncAfter }) ∧
      (∀ s, built = .ok s →
        (asyncAfter ≠ .null → s.asyncAfter = asyncAfter) ∧
        (asyncAfter = .null → s.asyncAfter = .int settings.defaultAsyncAfter)) ∧
      ((∃ s, built = .ok s) ↔
        (format = none → ∃ f, ResponseFormat.read settings.defaultFormat = .ok f) ∧
        (timeZone = none → ∃ z, Zone.read zones settings.defaultTimeZone = .ok z) ∧
        choices.Fit) ∧
      (∀ fault, ResponseFormat.read settings.defaultFormat = .error fault →
        (built = .error fault ↔ format = none)) ∧
      ∀ fault, Zone.read zones settings.defaultTimeZone = .error fault →
        (built = .error fault ↔
          timeZone = none ∧
            (format = none → ∃ f, ResponseFormat.read settings.defaultFormat = .ok f)) := by
  refine ⟨fun settings settings' => build_congr, fun settings => ⟨?_, fun s h => ⟨?_, ?_⟩,
    exists_build_eq_ok_iff, fun fault => build_eq_formatFault_iff,
    fun fault => build_eq_zoneFault_iff⟩⟩
  · rintro f z rfl rfl hgiven
    rw [build_eq, Settings.thresholdOr_of_ne hgiven, givenOr_some, givenOr_some]
    rfl
  · intro hgiven
    rw [asyncAfter_of_build h, Settings.thresholdOr_of_ne hgiven]
  · intro hmissing
    rw [asyncAfter_of_build h, hmissing, Settings.thresholdOr_null]

/-- A threshold of zero under settings whose format and zone cannot be read, and a zone that is
read only where it is installed. -/
theorem build_consults_missing_unreadable :
    let settings : Settings := ⟨"m.yml", "d.yml", "Europe/London", 5000, "xml", "INFO"⟩
    let views : Table := .make "views" [] ""
    let few : ZoneDatabase := ⟨["UTC"], by simp⟩
    let more : ZoneDatabase := ⟨["Europe/London", "UTC"], by simp⟩
    (∃ s, build few settings views .all (some .csv) (some ⟨"UTC"⟩) (.int 0) {} = .ok s ∧
      s.asyncAfter = .int 0) ∧
    build few settings views .all none none .null {} = .error (.unknownFormat "xml") ∧
    build few settings views .all (some .csv) none .null {} =
      .error (.unknownZone "Europe/London") ∧
    ∃ s, build more settings views .all (some .csv) none .null {} = .ok s := by
  intro settings views few more
  have hformat : ResponseFormat.read "xml" = .error (.unknownFormat "xml") := rfl
  have hunknown : Zone.read few "Europe/London" = .error (.unknownZone "Europe/London") := rfl
  have hknown : Zone.read more "Europe/London" = .ok ⟨"Europe/London"⟩ := rfl
  have hfit : Choices.Fit {} := ⟨⟨{}, views, .all, .csv, ⟨"UTC"⟩, .null⟩, _, rfl, rfl⟩
  refine ⟨?_, ?_, ?_, ?_⟩
  · obtain ⟨-, hsettings⟩ :=
      build_consults_missing few views .all (some .csv) (some ⟨"UTC"⟩) (.int 0) {}
    obtain ⟨-, hafter, hbuilt, -, -⟩ := hsettings settings
    obtain ⟨s, hs⟩ := hbuilt.2 ⟨nofun, nofun, hfit⟩
    exact ⟨s, hs, (hafter s hs).1 nofun⟩
  · obtain ⟨-, hsettings⟩ := build_consults_missing few views .all none none .null {}
    obtain ⟨-, -, -, hfault, -⟩ := hsettings settings
    exact (hfault _ hformat).2 rfl
  · obtain ⟨-, hsettings⟩ := build_consults_missing few views .all (some .csv) none .null {}
    obtain ⟨-, -, -, -, hfault⟩ := hsettings settings
    exact (hfault _ hunknown).2 ⟨rfl, nofun⟩
  · obtain ⟨-, hsettings⟩ := build_consults_missing more views .all (some .csv) none .null {}
    obtain ⟨-, -, hbuilt, -, -⟩ := hsettings settings
    exact hbuilt.2 ⟨nofun, fun _ => ⟨_, hknown⟩, hfit⟩

end Spec

end MetricQuery
