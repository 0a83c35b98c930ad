import MetricQuery.Proofs.Maker.Build

/-!
# Partial success and clashes of names

A build skips the templates that are rejected and goes on.  It ends early only in two ways: at a
relative class path, which no reason covers (`MakerDictionary.buildAll_relativePath_iff`), and at a
maker whose name is taken, in the dictionary or by a template before
(`MakerDictionary.buildAll_nameTaken_iff`).  The second way depends on which templates there are and
not on their order, and so does what a build that goes through finds under a name.

## Main definitions

* `MakerDictionary.NamesClash` : templates of which one registers a name that another one or the
  dictionary has.

## Main results

* `MakerDictionary.freshNames_iff_not_namesClash` : the names of a build that goes through.
* `MakerDictionary.buildAll_relativePath_iff` : the builds that end at a relative path.
* `MakerDictionary.buildAll_nameTaken_iff` : the builds that end at a taken name.
-/

namespace MetricQuery

theorem nodup_keys_builtMakers_iff {outside : List Module} {ts : List Template} :
    (builtMakers outside ts).keys.Nodup ↔ ts.Pairwise fun t u =>
      t.Buildable outside → u.Buildable outside → t.name.lowerCase ≠ u.name.lowerCase := by
  rw [Keyed.keys, builtMakers, List.Nodup, List.pairwise_map, List.pairwise_filterMap]
  simp only [Option.map_eq_some_iff, Template.buildable_iff_exists_maker]
  refine List.Pairwise.iff fun t u => ?_
  constructor
  · rintro h ⟨m, hm⟩ ⟨m', hm'⟩
    exact h _ ⟨m, hm, rfl⟩ _ ⟨m', hm', rfl⟩
  · rintro h _ ⟨m, hm, rfl⟩ _ ⟨m', hm', rfl⟩
    exact h ⟨m, hm⟩ ⟨m', hm'⟩

namespace MakerDictionary

/-- A clash of names: a template describes a maker whose name is taken, or templates in two places
describe makers with one name. -/
def NamesClash (outside : List Module) (d : MakerDictionary) (ts : List Template) : Prop :=
  (∃ t ∈ ts, t.Buildable outside ∧ t.name.lowerCase ∈ d.names) ∨
    ∃ (i j : Nat) (hi : i < ts.length) (hj : j < ts.length), i ≠ j ∧
      ts[i].Buildable outside ∧ ts[j].Buildable outside ∧
      ts[i].name.lowerCase = ts[j].name.lowerCase

variable {outside : List Module} {d : MakerDictionary} {ts : List Template}

/-- Names are fresh exactly if they do not clash. -/
theorem freshNames_iff_not_namesClash :
    FreshNames outside d.names ts ↔ ¬ d.NamesClash outside ts := by
  rw [FreshNames, nodup_keys_builtMakers_iff, List.pairwise_iff_getElem, NamesClash, not_or]
  constructor
  · rintro ⟨hpair, hfresh⟩
    constructor
    · rintro ⟨t, ht, hbuild, hname⟩
      exact hfresh _ (mem_keys_builtMakers.2 ⟨t, ht, hbuild, rfl⟩) hname
    · rintro ⟨i, j, hi, hj, hne, hbi, hbj, hname⟩
      obtain hij | hji := Nat.lt_or_gt_of_ne hne
      · exact hpair i j hi hj hij hbi hbj hname
      · exact hpair j i hj hi hji hbj hbi hname.symm
  · rintro ⟨htaken, hpair⟩
    constructor
    · exact fun i j hi hj hij hbi hbj hname => hpair ⟨i, j, hi, hj, hij.ne, hbi, hbj, hname⟩
    · intro name hname hmem
      obtain ⟨t, ht, hbuild, rfl⟩ := mem_keys_builtMakers.1 hname
      exact htaken ⟨t, ht, hbuild, hmem⟩

theorem namesClash_perm {ts' : List Template} (hts : ts.Perm ts') :
    d.NamesClash outside ts ↔ d.NamesClash outside ts' := by
  rw [← not_iff_not, ← freshNames_iff_not_namesClash, ← freshNames_iff_not_namesClash]
  exact ⟨FreshNames.perm hts, FreshNames.perm hts.symm⟩

/-- Behind templates without a clash, a template makes one exactly if it describes a maker whose
name is taken by then. -/
theorem namesClash_concat {before : List Template} {t : Template}
    (hbefore : ¬ d.NamesClash outside before) :
    d.NamesClash outside (before ++ [t]) ↔
      t.Buildable outside ∧ t.name.lowerCase ∈ d.names ++ (builtMakers outside before).keys := by
  rw [← not_iff_not, ← freshNames_iff_not_namesClash, freshNames_append, freshNames_singleton,
    not_and]
  exact and_iff_right (freshNames_iff_not_namesClash.2 hbefore)

/-! ### Builds by the way they end -/

section Builds

variable {serial : Nat}

theorem outcome_of_stop {stop : Option BuildStop} (h : (d.buildAll outside serial ts).2.2 = stop) :
    d.outcome outside serial ts = ((d.buildAll outside serial ts).1, stop) :=
  Prod.ext rfl h

theorem buildAll_eq_none_iff :
    (d.buildAll outside serial ts).2.2 = none ↔
      (∀ t ∈ ts, ¬ MakerClass.IsRelative t.classPath) ∧ ¬ d.NamesClash outside ts := by
  rw [← freshNames_iff_not_namesClash]
  constructor
  · intro h
    obtain ⟨hpaths, hnames, -⟩ := outcome_eq_none_iff.1 (outcome_of_stop h)
    exact ⟨hpaths, hnames⟩
  · rintro ⟨hpaths, hnames⟩
    exact congrArg Prod.snd (outcome_eq_none_iff.2 ⟨hpaths, hnames, rfl⟩)

theorem buildAll_of_eq_none (h : (d.buildAll outside serial ts).2.2 = none) :
    (d.buildAll outside serial ts).1 = d.extended outside serial ts :=
  (outcome_eq_none_iff.1 (outcome_of_stop h)).2.2

/-- A build that ends early ends at a template behind templates that neither have a relative path
nor clash, and the dictionary holds what those have built. -/
theorem exists_of_buildAll_eq_some {stop : BuildStop}
    (h : (d.buildAll outside serial ts).2.2 = some stop) :
    ∃ before t after, ts = before ++ t :: after ∧
      (∀ u ∈ before, ¬ MakerClass.IsRelative u.classPath) ∧ ¬ d.NamesClash outside before ∧
      (d.buildAll outside serial ts).1 = d.extended outside serial before ∧
      ((∃ moduleName, t.build outside = .error (.relativePath moduleName) ∧
          stop = .relativePath moduleName) ∨
        d.NamesClash outside (before ++ [t]) ∧ t.Buildable outside ∧ stop = .nameTaken t.name) := by
  obtain ⟨before, t, after, hts, hbefore, hstep⟩ := outcome_eq_some_iff.1 (outcome_of_stop h)
  obtain ⟨hpaths, hnames, hd⟩ := outcome_eq_none_iff.1 hbefore
  have hclash := freshNames_iff_not_namesClash.1 hnames
  refine ⟨before, t, after, hts, hpaths, hclash, hd, ?_⟩
  rw [hd] at hstep
  obtain hpath | ⟨hbuild, hname, hstop⟩ := step_eq_error_iff.1 hstep
  · exact .inl hpath
  · rw [names_extended] at hname
    exact .inr ⟨(namesClash_concat hclash).2 ⟨hbuild, hname⟩, hbuild, hstop⟩

theorem buildAll_of_isRelative {before after : List Template} {t : Template}
    (hpaths : ∀ u ∈ before, ¬ MakerClass.IsRelative u.classPath)
    (hclash : ¬ d.NamesClash outside before) (hpath : MakerClass.IsRelative t.classPath) :
    ∃ moduleName,
      (d.buildAll outside serial (before ++ t :: after)).2.2 = some (.relativePath moduleName) := by
  have hbefore : d.outcome outside serial before = (d.extended outside serial before, none) :=
    outcome_eq_none_iff.2 ⟨hpaths, freshNames_iff_not_namesClash.2 hclash, rfl⟩
  obtain ⟨moduleName, hbuild⟩ := Template.exists_build_eq_relativePath hpath outside
  exact ⟨moduleName, congrArg Prod.snd
    (outcome_eq_some_iff.2 ⟨before, t, after, rfl, hbefore, step_of_relativePath hbuild⟩)⟩

theorem exists_relativePath_iff :
    (∃ moduleName, (d.buildAll outside serial ts).2.2 = some (.relativePath moduleName)) ↔
      ∃ before t after, ts = before ++ t :: after ∧ MakerClass.IsRelative t.classPath ∧
        (∀ u ∈ before, ¬ MakerClass.IsRelative u.classPath) ∧ ¬ d.NamesClash outside before := by
  constructor
  · rintro ⟨moduleName, h⟩
    obtain ⟨before, t, after, hts, hpaths, hclash, -, hstop⟩ := exists_of_buildAll_eq_some h
    obtain ⟨_, hbuild, -⟩ | ⟨-, -, hstop⟩ := hstop
    · have hpath := (Template.build_eq_relativePath_iff.1 hbuild).1
      exact ⟨before, t, after, hts, hpath, hpaths, hclash⟩
    · exact nomatch hstop
  · rintro ⟨before, t, after, rfl, hpath, hpaths, hclash⟩
    exact buildAll_of_isRelative hpaths hclash hpath

/-- Without relative paths names clash at a first template, and the build ends there. -/
theorem exists_of_namesClash (hpaths : ∀ t ∈ ts, ¬ MakerClass.IsRelative t.classPath)
    (h : d.NamesClash outside ts) :
    ∃ before t after, ts = before ++ t :: after ∧ ¬ d.NamesClash outside before ∧
      d.NamesClash outside (before ++ [t]) ∧ t.Buildable outside ∧
      (d.buildAll outside serial ts).2.2 = some (.nameTaken t.name) ∧
      (d.buildAll outside serial ts).1 = d.extended outside serial before := by
  cases hstop : (d.buildAll outside serial ts).2.2 with
  | none => exact absurd h (buildAll_eq_none_iff.1 hstop).2
  | some stop =>
      obtain ⟨before, t, after, rfl, -, hclash, hd, hcause⟩ := exists_of_buildAll_eq_some hstop
      obtain ⟨_, hbuild, -⟩ | ⟨hclash', hbuild, rfl⟩ := hcause
      · exact absurd (Template.build_eq_relativePath_iff.1 hbuild).1 (hpaths t (by simp))
      · exact ⟨before, t, after, rfl, hclash, hclash', hbuild, rfl, hd⟩

theorem exists_nameTaken_iff (hpaths : ∀ t ∈ ts, ¬ MakerClass.IsRelative t.classPath) :
    (∃ name, (d.buildAll outside serial ts).2.2 = some (.nameTaken name)) ↔
      d.NamesClash outside ts := by
  constructor
  · rintro ⟨name, hstop⟩
    by_contra hclash
    exact nomatch hstop.symm.trans (buildAll_eq_none_iff.2 ⟨hpaths, hclash⟩)
  · intro hclash
    obtain ⟨_, t, _, -, -, -, -, hstop, -⟩ := exists_of_namesClash hpaths hclash
    exact ⟨t.name, hstop⟩

end Builds

/-- **Partial success.**  A template whose path is not relative is built or rejected.  A build ends
at a relative path exactly if there is one behind templates that have none and that do not clash.
Where no path is relative, it goes through all templates or ends at a taken name; and a build that
goes through has skipped the templates that are rejected and built the others. -/
theorem buildAll_relativePath_iff (outside : List Module) (d : MakerDictionary) (serial : Nat)
    (ts : List Template) :
    (∀ t ∈ ts, ¬ MakerClass.IsRelative t.classPath → t.Buildable outside ∨ t.Rejected outside) ∧
    ((∃ moduleName, (d.buildAll outside serial ts).2.2 = some (.relativePath moduleName)) ↔
      ∃ before t after, ts = before ++ t :: after ∧ MakerClass.IsRelative t.classPath ∧
        (∀ u ∈ before, ¬ MakerClass.IsRelative u.classPath) ∧ ¬ d.NamesClash outside before) ∧
    ((∀ t ∈ ts, ¬ MakerClass.IsRelative t.classPath) →
      (d.buildAll outside serial ts).2.2 = none ∨
        ∃ name, (d.buildAll outside serial ts).2.2 = some (.nameTaken name)) ∧
    ((d.buildAll outside serial ts).2.2 = none →
      (d.buildAll outside serial ts).1.entries = d.entries ++ builtEntries outside serial ts ∧
        (d.buildAll outside serial ts).1.skipped = skippedBy outside d.skipped ts) := by
  refine ⟨fun t _ => Template.buildable_or_rejected_iff.2, exists_relativePath_iff,
    fun hpaths => ?_, fun h => ?_⟩
  · cases hstop : (d.buildAll outside serial ts).2.2 with
    | none => exact .inl rfl
    | some stop =>
        cases stop with
        | nameTaken name => exact .inr ⟨name, rfl⟩
        | relativePath moduleName =>
            obtain ⟨before, t, after, rfl, hpath, -⟩ :=
              exists_relativePath_iff.1 ⟨moduleName, hstop⟩
            exact absurd hpath (hpaths t (by simp))
  · rw [buildAll_of_eq_none h]
    exact ⟨rfl, rfl⟩

/-- A relative path ends a build neither normally nor at a taken name, and the template behind it is
not built. -/
theorem buildAll_relativePath_dots :
    let ts : List Template := [⟨"a", "CountMaker", []⟩, ⟨"b", "..Foo", []⟩, ⟨"c", "CountMaker", []⟩]
    ¬ ((empty.buildAll [] 0 ts).2.2 = none ∨
        ∃ name, (empty.buildAll [] 0 ts).2.2 = some (.nameTaken name)) ∧
      (empty.buildAll [] 0 ts).1.names = ["a"] := by
  intro ts
  have hstop : (empty.buildAll [] 0 ts).2.2 = some (.relativePath ".") := by rfl
  refine ⟨?_, by rfl⟩
  rw [hstop]
  rintro (h | ⟨_, h⟩)
  · exact nomatch h
  · exact nomatch h

/-- What a build finds under a name does not see the order of the templates nor the numbers of the
makers. -/
theorem get?_extended_perm {ts' : List Template} (hts : ts.Perm ts')
    (hnames : FreshNames outside d.names ts) (serial serial' : Nat) (key : String) :
    ((d.extended outside serial' ts').entries.get? key).map (·.maker) =
      ((d.extended outside serial ts).entries.get? key).map (·.maker) := by
  have hmakers : (builtMakers outside ts).get? key = (builtMakers outside ts').get? key :=
    Keyed.get?_perm (hts.filterMap _) hnames.1 key
  rw [← builtEntries_map_maker serial ts, ← builtEntries_map_maker serial' ts', Keyed.get?_map,
    Keyed.get?_map] at hmakers
  rw [extended, extended, Keyed.get?_append, Keyed.get?_append]
  cases d.entries.get? key with
  | none => exact hmakers.symm
  | some m => rfl

/-- **Clashes of names.**  A build of templates that are built or rejected ends at a taken name
exactly if names clash.  If none do, it puts the makers of the templates, in their order and under
their names in lower case, behind those that there were.  If some do, it ends at the first template
that makes the names before it clash, one that describes a maker, and has put the makers of the
templates before it.  In either way every maker that there was stays under its name.  Whether the
build ends early, and otherwise which maker is under which name, is the same for the templates in
any order. -/
theorem buildAll_nameTaken_iff (outside : List Module) (d : MakerDictionary) (serial : Nat)
    (ts : List Template) (hts : ∀ t ∈ ts, t.Buildable outside ∨ t.Rejected outside) :
    ((∃ name, (d.buildAll outside serial ts).2.2 = some (.nameTaken name)) ↔
      d.NamesClash outside ts) ∧
    (¬ d.NamesClash outside ts → (d.buildAll outside serial ts).2.2 = none ∧
      (d.buildAll outside serial ts).1.entries = d.entries ++ builtEntries outside serial ts) ∧
    (d.NamesClash outside ts → ∃ before t after, ts = before ++ t :: after ∧
      ¬ d.NamesClash outside before ∧ d.NamesClash outside (before ++ [t]) ∧ t.Buildable outside ∧
      (d.buildAll outside serial ts).2.2 = some (.nameTaken t.name) ∧
      (d.buildAll outside serial ts).1.entries = d.entries ++ builtEntries outside serial before) ∧
    (∀ key m, d.entries.get? key = some m →
      (d.buildAll outside serial ts).1.entries.get? key = some m) ∧
    ∀ serial' ts', ts.Perm ts' →
      ((∃ name, (d.buildAll outside serial' ts').2.2 = some (.nameTaken name)) ↔
        ∃ name, (d.buildAll outside serial ts).2.2 = some (.nameTaken name)) ∧
      ((d.buildAll outside serial ts).2.2 = none → ∀ key,
        ((d.buildAll outside serial' ts').1.entries.get? key).map (·.maker) =
          ((d.buildAll outside serial ts).1.entries.get? key).map (·.maker)) := by
  have hpaths : ∀ t ∈ ts, ¬ MakerClass.IsRelative t.classPath := fun t ht =>
    Template.buildable_or_rejected_iff.1 (hts t ht)
  refine ⟨exists_nameTaken_iff hpaths, fun hclash => ?_, fun hclash => ?_, fun key m hm => ?_,
    fun serial' ts' hperm => ?_⟩
  · have hstop : (d.buildAll outside serial ts).2.2 = none :=
      buildAll_eq_none_iff.2 ⟨hpaths, hclash⟩
    exact ⟨hstop, congrArg entries (buildAll_of_eq_none hstop)⟩
  · obtain ⟨before, t, after, hsplit, hbefore, hclash', hbuild, hstop, hd⟩ :=
      exists_of_namesClash hpaths hclash
    exact ⟨before, t, after, hsplit, hbefore, hclash', hbuild, hstop, congrArg entries hd⟩
  · -- What a build adds stands behind the old makers, whichever way it ends.
    obtain ⟨built, hbuilt⟩ :
        ∃ built, (d.buildAll outside serial ts).1.entries = d.entries ++ built := by
      by_cases hclash : d.NamesClash outside ts
      · obtain ⟨before, _, _, -, -, -, -, -, hd⟩ := exists_of_namesClash hpaths hclash
        exact ⟨_, congrArg entries hd⟩
      · exact ⟨_, congrArg entries (buildAll_of_eq_none (buildAll_eq_none_iff.2 ⟨hpaths, hclash⟩))⟩
    rw [hbuilt, Keyed.get?_append, hm, Option.some_or]
  · have hpaths' : ∀ t ∈ ts', ¬ MakerClass.IsRelative t.classPath := fun t ht =>
      hpaths t (hperm.mem_iff.2 ht)
    refine ⟨?_, fun hstop key => ?_⟩
    · rw [exists_nameTaken_iff hpaths', exists_nameTaken_iff hpaths, namesClash_perm hperm]
    · have hclash := (buildAll_eq_none_iff.1 hstop).2
      have hstop' : (d.buildAll outside serial' ts').2.2 = none :=
        buildAll_eq_none_iff.2 ⟨hpaths', fun h => hclash ((namesClash_perm hperm).2 h)⟩
      rw [buildAll_of_eq_none hstop, buildAll_of_eq_none hstop']
      exact get?_extended_perm hperm (freshNames_iff_not_namesClash.2 hclash) serial serial' key

/-- A rejected template does not keep its name from a later one, but a built one does. -/
theorem buildAll_nameTaken_aOrB :
    let ts : List Template := [⟨"a", "Foo", []⟩, ⟨"A", "CountMaker", []⟩, ⟨"b", "CountMaker", []⟩,
      ⟨"B", "CountMaker", []⟩, ⟨"c", "CountMaker", []⟩]
    (∃ name, (empty.buildAll [] 0 ts).2.2 = some (.nameTaken name)) ∧
      (empty.buildAll [] 0 ts).1.names = ["a", "b"] := by
  intro ts
  have hts : ∀ t ∈ ts, t.Buildable [] ∨ t.Rejected [] := by
    simp only [ts, List.forall_mem_cons]
    exact ⟨.inr ⟨_, rfl⟩, .inl ⟨_, rfl⟩, .inl ⟨_, rfl⟩, .inl ⟨_, rfl⟩, .inl ⟨_, rfl⟩, nofun⟩
  have hclash : empty.NamesClash [] ts :=
    .inr ⟨2, 3, by decide, by decide, by decide, ⟨_, rfl⟩, ⟨_, rfl⟩, by decide⟩
  exact ⟨(buildAll_nameTaken_iff [] empty 0 ts hts).1.2 hclash, rfl⟩

end MakerDictionary

end MetricQuery
