import Mathlib.Control.Monad.Basic
import MetricQuery.Catalog.Basic
import MetricQuery.Document.Read
import MetricQuery.Proofs.Catalog.Dimensions
import MetricQuery.Proofs.Maker.Dictionary
import MetricQuery.Proofs.Vocabulary.Glossary

/-!
# Loading of catalogs

A catalog is loaded in stages: the dimensions are loaded and registered in a glossary, and then the
makers are built.  The stages look at names on their own: the load of dimensions compares names
without regard to letter case, stores and providers are known by exact names, and the glossary and
the dictionary of makers keep names in lower case.  Since the first of these checks is the
strictest, the registration of dimensions that have been loaded never fails
(`Glossary.registerAll_eq_none_iff`), and all that can go wrong is a description that is refused or,
behind admitted descriptions, a clash of names of makers (`Catalog.load_eq_ok_iff`,
`Catalog.of_load_eq_error`).

## Main definitions

* `Glossary.entriesOf` : dimensions under their names.
* `Catalog.Holds` : the catalog of a configuration and of templates.

## Main results

* `Glossary.registerAll_eq_none_iff` : the registration of several dimensions.
* `Catalog.load_eq_ok_iff`, `Catalog.of_load_eq_error` : the two ways in which a load ends.
* `Catalog.load_of_accepted` : the load of two accepted documents.
-/

namespace MetricQuery

/-! ### Registration -/

namespace Glossary

/-- Dimensions under their names in lower case. -/
def entriesOf (ds : List Dimension) : Keyed String Dimension :=
  ds.map fun d => (d.apiName.lowerCase, d)

variable {g g' : Glossary Dimension} {d : Dimension} {ds : List Dimension}

theorem register?_of_notMem (h : d.apiName.lowerCase ∉ g.entries.keys) :
    g.register? d = some ⟨g.entries ++ [(d.apiName.lowerCase, d)]⟩ := by
  rw [register?, offer_of_notMem h]

theorem register?_of_mem (h : d.apiName.lowerCase ∈ g.entries.keys) : g.register? d = none := by
  rw [register?, offer_of_mem h]

/-- Several dimensions are registered exactly if their names are different from each other and from
those that are taken; they then stand behind the old ones. -/
theorem registerAll_eq_none_iff :
    g.registerAll ds = (g', none) ↔
      (ds.Pairwise fun d e => d.apiName.lowerCase ≠ e.apiName.lowerCase) ∧
      (∀ d ∈ ds, d.apiName.lowerCase ∉ g.entries.keys) ∧ g' = ⟨g.entries ++ entriesOf ds⟩ := by
  induction ds generalizing g with
  | nil =>
      have hg : (⟨g.entries ++ entriesOf []⟩ : Glossary Dimension) = g :=
        congrArg Glossary.mk (List.append_nil g.entries)
      rw [registerAll, hg, Prod.mk.injEq]
      constructor
      · rintro ⟨rfl, -⟩
        exact ⟨.nil, nofun, rfl⟩
      · rintro ⟨-, -, rfl⟩
        exact ⟨rfl, rfl⟩
  | cons d ds ih =>
      rw [registerAll, List.pairwise_cons, List.forall_mem_cons]
      by_cases hd : d.apiName.lowerCase ∈ g.entries.keys
      · rw [register?_of_mem hd]
        exact ⟨(nomatch ·), fun h => absurd hd h.2.1.1⟩
      · have hkeys : Keyed.keys (g.entries ++ [(d.apiName.lowerCase, d)]) =
            g.entries.keys ++ [d.apiName.lowerCase] := List.map_append
        have hentries : g.entries ++ [(d.apiName.lowerCase, d)] ++ entriesOf ds =
            g.entries ++ entriesOf (d :: ds) := List.append_assoc ..
        rw [register?_of_notMem hd]
        dsimp only
        rw [ih, hentries, hkeys]
        simp only [List.mem_append, List.mem_singleton, not_or]
        constructor
        · rintro ⟨hnames, hnew, hg⟩
          exact ⟨⟨fun e he => Ne.symm (hnew e he).2, hnames⟩, ⟨hd, fun e he => (hnew e he).1⟩, hg⟩
        · rintro ⟨⟨hfirst, hnames⟩, ⟨-, hnew⟩, hg⟩
          exact ⟨hnames, fun e he => ⟨hnew e he, Ne.symm (hfirst e he)⟩, hg⟩

end Glossary

/-- Described dimensions have the names of their descriptions. -/
theorem DimensionConfig.map_apiName_of_forall₂ {config : DimensionConfig}
    {ts : List DimensionTemplate} {ds : List Dimension} (h : List.Forall₂ config.Describes ts ds) :
    ds.map (·.apiName) = ts.map (·.apiName) := by
  induction h with
  | nil => rfl
  | cons hd _ ih => rw [List.map_cons, List.map_cons, hd.apiName, ih]

/-- The names of loaded dimensions are different, in whichever letter case. -/
theorem DimensionConfig.pairwise_of_load_eq_ok {config : DimensionConfig} {rows : Rows}
    {ds : List Dimension} (hload : (config.load rows).outcome = .ok ds) :
    ds.Pairwise fun d e => d.apiName.lowerCase ≠ e.apiName.lowerCase := by
  obtain ⟨hadmits, hall⟩ := DimensionConfig.load_eq_ok_iff.1 hload
  have hnames : (config.dimensions.map (·.apiName)).Pairwise
      fun name other => name.lowerCase ≠ other.lowerCase :=
    List.pairwise_map.2 hadmits.names
  rwa [← DimensionConfig.map_apiName_of_forall₂ hall, List.pairwise_map] at hnames

namespace Catalog

/-! ### The stages -/

/-- A catalog holds what a configuration and templates describe: the described dimensions under
their names, each with a store and a provider of its name that are bound to each other, and the
makers of the templates, numbered by the places of these.  All are in the order of the documents. -/
structure Holds (outside : List Module) (config : DimensionConfig) (ts : List Template)
    (catalog : Catalog) : Prop where
  dimensions : ∃ ds, List.Forall₂ config.Describes config.dimensions ds ∧
    catalog.dimensions.entries = Glossary.entriesOf ds
  stores : catalog.rows.stores.keys = config.dimensions.map (·.apiName)
  providers : catalog.rows.providers.keys = config.dimensions.map (·.apiName)
  makers : catalog.makers.entries = builtEntries outside 0 ts
  /-- The provider of a dimension finds the keys of its store, whatever rows the stores come to
  hold. -/
  bound : ∀ d ∈ catalog.dimensions.items, ∃ store provider, d.store = some store ∧
    d.provider = some provider ∧ ∀ stores : Keyed String Store,
      Rows.keysOf ⟨stores, catalog.rows.providers⟩ provider =
        (Rows.store ⟨stores, catalog.rows.providers⟩ store).keys

section Stages

variable {reader : DocumentReader} {outside : List Module} {dimensionFile makerFile : ConfigFile}
  {config : DimensionConfig} {ts : List Template} {metrics : Glossary Metric}
  {fault : CatalogFault} {ds : List Dimension}

theorem loadDimensions_of_ok (hfile : dimensionFile.dimensions reader = .ok config)
    (hload : (config.load .empty).outcome = .ok ds) :
    (loadDimensions reader dimensionFile).2 =
      .ok (⟨Glossary.entriesOf ds⟩, (config.load .empty).rows) := by
  have hregister : Glossary.empty.registerAll ds = (⟨Glossary.entriesOf ds⟩, none) :=
    Glossary.registerAll_eq_none_iff.2
      ⟨DimensionConfig.pairwise_of_load_eq_ok hload, fun _ _ h => absurd h List.not_mem_nil, rfl⟩
  rw [loadDimensions, hfile]
  dsimp only
  rw [hload]
  dsimp only
  rw [hregister]

theorem loadDimensions_of_error (hfile : dimensionFile.dimensions reader = .ok config)
    (hload : (config.load .empty).outcome = .error fault) :
    (loadDimensions reader dimensionFile).2 = .error fault := by
  rw [loadDimensions, hfile]
  dsimp only
  rw [hload]

theorem loadMakers_of_none (hfile : makerFile.templates reader = .ok ts)
    (hbuild : (MakerDictionary.empty.buildAll outside 0 ts).2.2 = none) :
    (loadMakers reader outside makerFile).2 =
      .ok (MakerDictionary.empty.buildAll outside 0 ts).1 := by
  rw [loadMakers, hfile]
  dsimp only
  rw [hbuild]

theorem loadMakers_of_some {stop : BuildStop} (hfile : makerFile.templates reader = .ok ts)
    (hbuild : (MakerDictionary.empty.buildAll outside 0 ts).2.2 = some stop) :
    (loadMakers reader outside makerFile).2 = .error (.build stop) := by
  rw [loadMakers, hfile]
  dsimp only
  rw [hbuild]

/-- The stages come one after another, and the first fault counts. -/
theorem load_eq (reader : DocumentReader) (outside : List Module)
    (dimensionFile makerFile : ConfigFile) (metrics : Glossary Metric) :
    (load reader outside dimensionFile makerFile metrics).2 = (do
      let (dimensions, rows) ← (loadDimensions reader dimensionFile).2
      let makers ← (loadMakers reader outside makerFile).2
      return ⟨dimensions, metrics, makers, rows⟩) := by
  rw [load]
  rcases loadDimensions reader dimensionFile with ⟨notices, fault | ⟨dimensions, rows⟩⟩
  · rfl
  · rcases loadMakers reader outside makerFile with ⟨more, fault | makers⟩ <;> rfl

/-- Two accepted documents make a catalog exactly if no description is refused and no names of
makers clash. -/
theorem load_eq_ok_iff (hdimensions : dimensionFile.dimensions reader = .ok config)
    (hmakers : makerFile.templates reader = .ok ts)
    (hpaths : ∀ t ∈ ts, ¬ MakerClass.IsRelative t.classPath) :
    (∃ catalog, (load reader outside dimensionFile makerFile metrics).2 = .ok catalog) ↔
      config.Admits config.dimensions ∧ ¬ MakerDictionary.empty.NamesClash outside ts := by
  simp only [load_eq, Except.bind_eq_ok_iff]
  constructor
  · rintro ⟨catalog, ⟨dimensions, rows⟩, hd, makers, hm, -⟩
    constructor
    · cases hload : (config.load .empty).outcome with
      | ok ds => exact (DimensionConfig.load_eq_ok_iff.1 hload).1
      | error fault => exact nomatch hd.symm.trans (loadDimensions_of_error hdimensions hload)
    · cases hbuild : (MakerDictionary.empty.buildAll outside 0 ts).2.2 with
      | none => exact (MakerDictionary.buildAll_eq_none_iff.1 hbuild).2
      | some stop => exact nomatch hm.symm.trans (loadMakers_of_some hmakers hbuild)
  · rintro ⟨hadmits, hclash⟩
    obtain ⟨ds, hload⟩ := DimensionConfig.exists_load_eq_ok_iff.2 hadmits
    have hbuild : (MakerDictionary.empty.buildAll outside 0 ts).2.2 = none :=
      MakerDictionary.buildAll_eq_none_iff.2 ⟨hpaths, hclash⟩
    exact ⟨_, _, loadDimensions_of_ok hdimensions hload, _, loadMakers_of_none hmakers hbuild, rfl⟩

/-- The provider of a loaded dimension finds the keys of the store of the dimension. -/
theorem exists_bound_of_mem {rows : Rows} {d : Dimension}
    (hload : (config.load rows).outcome = .ok ds) (hd : d ∈ ds) :
    ∃ store provider, d.store = some store ∧ d.provider = some provider ∧
      ∀ stores : Keyed String Store,
        Rows.keysOf ⟨stores, (config.load rows).rows.providers⟩ provider =
          (Rows.store ⟨stores, (config.load rows).rows.providers⟩ store).keys := by
  obtain ⟨-, hall⟩ := DimensionConfig.load_eq_ok_iff.1 hload
  obtain ⟨t, ht, hdescribes⟩ := hall.exists_of_mem_right hd
  have hname : t.apiName ∈ config.dimensions.map (·.apiName) := List.mem_map_of_mem ht
  have hattached := DimensionConfig.attached_of_load_eq_ok hload
  exact ⟨t.apiName, t.apiName, hdescribes.store, hdescribes.provider, hattached.keysOf_eq hname⟩

/-- A catalog that is loaded from two accepted documents holds what they describe. -/
theorem of_load_eq_ok (hdimensions : dimensionFile.dimensions reader = .ok config)
    (hmakers : makerFile.templates reader = .ok ts) {catalog : Catalog}
    (h : (load reader outside dimensionFile makerFile metrics).2 = .ok catalog) :
    Holds outside config ts catalog ∧ catalog.metrics = metrics := by
  rw [load_eq] at h
  obtain ⟨⟨dimensions, rows⟩, hd, h⟩ := Except.bind_eq_ok_iff.1 h
  obtain ⟨makers, hm, h⟩ := Except.bind_eq_ok_iff.1 h
  obtain rfl := Except.ok.inj h
  cases hload : (config.load .empty).outcome with
  | error fault => exact nomatch hd.symm.trans (loadDimensions_of_error hdimensions hload)
  | ok ds =>
      have hloaded := Except.ok.inj (hd.symm.trans (loadDimensions_of_ok hdimensions hload))
      obtain ⟨rfl, rfl⟩ := Prod.mk.inj hloaded
      obtain ⟨-, hall⟩ := DimensionConfig.load_eq_ok_iff.1 hload
      have hattached := DimensionConfig.attached_of_load_eq_ok hload
      cases hbuild : (MakerDictionary.empty.buildAll outside 0 ts).2.2 with
      | some stop => exact nomatch hm.symm.trans (loadMakers_of_some hmakers hbuild)
      | none =>
          obtain rfl := Except.ok.inj (hm.symm.trans (loadMakers_of_none hmakers hbuild))
          refine ⟨⟨⟨ds, hall, rfl⟩, ?_, ?_, ?_, fun d hitem => ?_⟩, rfl⟩
          · rw [hattached.stores, Keyed.keys_append_map]
            exact newNames_nil _
          · rw [hattached.providers]
            exact newNames_nil _
          · rw [MakerDictionary.buildAll_of_eq_none hbuild]
            rfl
          · have hd : d ∈ ds := by
              simpa [Glossary.items, Glossary.entriesOf, Function.comp_def] using hitem
            exact exists_bound_of_mem hload hd

/-- A load of two accepted documents fails at the first description that is refused, or if there is
none, at the first template that makes names of makers clash. -/
theorem of_load_eq_error (hdimensions : dimensionFile.dimensions reader = .ok config)
    (hmakers : makerFile.templates reader = .ok ts)
    (hpaths : ∀ t ∈ ts, ¬ MakerClass.IsRelative t.classPath)
    (h : (load reader outside dimensionFile makerFile metrics).2 = .error fault) :
    (∃ before t after, config.dimensions = before ++ t :: after ∧ config.Admits before ∧
      config.Refuses before t fault) ∨
    config.Admits config.dimensions ∧ ∃ before t after, ts = before ++ t :: after ∧
      ¬ MakerDictionary.empty.NamesClash outside before ∧
      MakerDictionary.empty.NamesClash outside (before ++ [t]) ∧ t.Buildable outside ∧
      fault = .build (.nameTaken t.name) := by
  cases hload : (config.load .empty).outcome with
  | error refusal =>
      rw [load_eq, loadDimensions_of_error hdimensions hload] at h
      obtain rfl := Except.error.inj h
      obtain ⟨before, t, after, hsplit, hadmits, hrefuses, -⟩ :=
        DimensionConfig.exists_of_load_eq_error hload
      exact .inl ⟨before, t, after, hsplit, hadmits, hrefuses⟩
  | ok ds =>
      have hadmits := (DimensionConfig.load_eq_ok_iff.1 hload).1
      have hclash : MakerDictionary.empty.NamesClash outside ts := by
        by_contra hclash
        have hloads :
            ∃ catalog, (load reader outside dimensionFile makerFile metrics).2 = .ok catalog :=
          (load_eq_ok_iff hdimensions hmakers hpaths).2 ⟨hadmits, hclash⟩
        obtain ⟨catalog, hcatalog⟩ := hloads
        exact nomatch h.symm.trans hcatalog
      obtain ⟨before, t, after, hsplit, hbefore, hclash', hbuildable, hstop, -⟩ :=
        @MakerDictionary.exists_of_namesClash outside .empty ts 0 hpaths hclash
      rw [load_eq, loadDimensions_of_ok hdimensions hload, loadMakers_of_some hmakers hstop] at h
      obtain rfl := Except.error.inj h
      exact .inr ⟨hadmits, before, t, after, hsplit, hbefore, hclash', hbuildable, rfl⟩

/-- The names of templates do not clash in an empty dictionary exactly if those of any two templates
that describe makers are different. -/
theorem not_namesClash_empty_iff :
    ¬ MakerDictionary.empty.NamesClash outside ts ↔ ts.Pairwise fun t u =>
      t.Buildable outside → u.Buildable outside → t.name.lowerCase ≠ u.name.lowerCase := by
  rw [← MakerDictionary.freshNames_iff_not_namesClash, FreshNames, nodup_keys_builtMakers_iff]
  exact and_iff_left fun _ _ h => absurd h List.not_mem_nil

end Stages

/-- **A load of two accepted documents** in which every template is built or rejected.

* It succeeds exactly if no two api names are the same without regard to letter case, every named
  set of fields is defined, and no two templates that describe makers have one name without regard
  to letter case.
* If it succeeds, the catalog holds what the documents describe, around the given metrics.
* If it fails, the fault is that of the first description that is refused, and only if there is
  none, that of the first template that registers a maker under a taken name. -/
theorem load_of_accepted {reader : DocumentReader} {outside : List Module}
    {dimensionFile makerFile : ConfigFile} {config : DimensionConfig} {ts : List Template}
    (hdimensions : dimensionFile.dimensions reader = .ok config)
    (hmakers : makerFile.templates reader = .ok ts)
    (hts : ∀ t ∈ ts, t.Buildable outside ∨ t.Rejected outside)
    (metrics : Glossary Metric) :
    ((∃ catalog, (load reader outside dimensionFile makerFile metrics).2 = .ok catalog) ↔
      (config.dimensions.Pairwise fun t u => t.apiName.lowerCase ≠ u.apiName.lowerCase) ∧
      (∀ t ∈ config.dimensions, ∀ set, t.fields = .named set → set ∈ config.fieldSets.keys) ∧
      ts.Pairwise fun t u =>
        t.Buildable outside → u.Buildable outside → t.name.lowerCase ≠ u.name.lowerCase) ∧
    (∀ catalog, (load reader outside dimensionFile makerFile metrics).2 = .ok catalog →
      Holds outside config ts catalog ∧ catalog.metrics = metrics) ∧
    ∀ fault, (load reader outside dimensionFile makerFile metrics).2 = .error fault →
      (∃ before t after, config.dimensions = before ++ t :: after ∧ config.Admits before ∧
        config.Refuses before t fault) ∨
      config.Admits config.dimensions ∧ ∃ before t after, ts = before ++ t :: after ∧
        ¬ MakerDictionary.empty.NamesClash outside before ∧
        MakerDictionary.empty.NamesClash outside (before ++ [t]) ∧ t.Buildable outside ∧
        fault = .build (.nameTaken t.name) := by
  have hpaths : ∀ t ∈ ts, ¬ MakerClass.IsRelative t.classPath := fun t ht =>
    Template.buildable_or_rejected_iff.1 (hts t ht)
  refine ⟨?_, fun catalog => of_load_eq_ok hdimensions hmakers,
    fun fault => of_load_eq_error hdimensions hmakers hpaths⟩
  rw [load_eq_ok_iff hdimensions hmakers hpaths, not_namesClash_empty_iff]
  constructor
  · rintro ⟨⟨hnames, hsets⟩, hclash⟩
    exact ⟨hnames, hsets, hclash⟩
  · rintro ⟨hnames, hsets, hclash⟩
    exact ⟨⟨hnames, hsets⟩, hclash⟩

/-- A template that is rejected does not keep the name of one that is built. -/
theorem load_of_accepted_pages :
    let dimensionFile : ConfigFile :=
      ⟨"d.yml", .content "dimensions:\n- apiName: page\n- apiName: user\n  fields: [id]\n"⟩
    let makerFile : ConfigFile := ⟨"m.yml", .content
      "makers:\n- name: n\n  classPath: CountMaker\n- name: N\n  classPath: Foo\n"⟩
    ∃ catalog, (load Datum.ofDocument [] dimensionFile makerFile .empty).2 = .ok catalog ∧
      catalog.rows.stores.keys = ["page", "user"] ∧ catalog.makers.entries.keys = ["n"] := by
  intro dimensionFile makerFile
  have hdimensions : dimensionFile.dimensions Datum.ofDocument =
      .ok ⟨[], [⟨"page", "", "", "General", .usual⟩,
        ⟨"user", "", "", "General", .listed [⟨"id", ""⟩]⟩]⟩ := by
    decide +kernel
  have hmakers : makerFile.templates Datum.ofDocument =
      .ok [⟨"n", "CountMaker", []⟩, ⟨"N", "Foo", []⟩] := by
    decide +kernel
  have hrejected : (⟨"N", "Foo", []⟩ : Template).Rejected [] := ⟨_, rfl⟩
  have hts : ∀ t ∈ ([⟨"n", "CountMaker", []⟩, ⟨"N", "Foo", []⟩] : List Template),
      t.Buildable [] ∨ t.Rejected [] := by
    simp only [List.forall_mem_cons]
    exact ⟨.inl ⟨_, rfl⟩, .inr hrejected, nofun⟩
  obtain ⟨hok, hholds, -⟩ := load_of_accepted hdimensions hmakers hts .empty
  obtain ⟨catalog, hcatalog⟩ := hok.2 (by
    refine ⟨by decide, ?_, ?_⟩
    · simp only [List.forall_mem_cons]
      exact ⟨nofun, nofun, nofun⟩
    · rw [List.pairwise_pair]
      rintro - ⟨m, hm⟩
      obtain ⟨reason, hreason⟩ := hrejected
      exact nomatch hm.symm.trans hreason)
  obtain ⟨⟨-, hstores, -, hentries, -⟩, -⟩ := hholds catalog hcatalog
  refine ⟨catalog, hcatalog, hstores, ?_⟩
  rw [hentries]
  rfl

end Catalog

end MetricQuery
