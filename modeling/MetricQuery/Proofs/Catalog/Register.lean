import MetricQuery.Proofs.Catalog.Load

/-!
# Registration of loaded dimensions

A load compares the names of dimensions with each other, and a glossary compares them with those
that it holds, both without regard to letter case.  Since the names of loaded dimensions are
different, only an item that the glossary held before can be in the way of one
(`Glossary.registerAll_of_pairwise`).  So dimensions are registered up to the first one that clashes
with an old item, and those in front of it stay.

## Main definitions

* `Glossary.Clashes` : dimensions whose name a glossary knows in some letter case.

## Main results

* `Glossary.registerAll_of_pairwise` : the registration of dimensions with different names.
* `Dimension.map_apiName_namedIn` : the names of the dimensions with given names.
* `Glossary.registerAll_of_load` : the registration of loaded dimensions.
-/

namespace MetricQuery

namespace Glossary

variable {g : Glossary Dimension} {d : Dimension} {ds offered : List Dimension}

/-- A dimension clashes with a glossary if an item has its name in some letter case. -/
def Clashes (g : Glossary Dimension) (d : Dimension) : Prop :=
  ∃ old ∈ g.items, d.apiName.lowerCase = old.apiName.lowerCase

theorem Holds.clashes_iff (h : g.Holds offered) :
    g.Clashes d ↔ d.apiName.lowerCase ∈ g.entries.keys := by
  have hkeys : g.entries.keys = (firstNamed offered).map (·.apiName.lowerCase) := by
    rw [h.entries, Keyed.keys, List.map_map]
    rfl
  rw [Clashes, h.items_eq, hkeys, List.mem_map]
  exact exists_congr fun _ => and_congr_right fun _ => eq_comm

/-! ### Registration -/

theorem items_append_entriesOf (g : Glossary Dimension) (ds : List Dimension) :
    items ⟨g.entries ++ entriesOf ds⟩ = g.items ++ ds := by
  rw [items, items, entriesOf, List.map_append, List.map_map]
  exact congrArg (g.entries.map (·.2) ++ ·) (List.map_id ds)

/-- Dimensions with different names are registered up to the first one whose name is taken in the
glossary as it was before. -/
theorem registerAll_of_pairwise
    (hnames : ds.Pairwise fun d e => d.apiName.lowerCase ≠ e.apiName.lowerCase)
    (g : Glossary Dimension) :
    (∀ d ∈ ds, d.apiName.lowerCase ∉ g.entries.keys) ∧
        g.registerAll ds = (⟨g.entries ++ entriesOf ds⟩, none) ∨
      ∃ before d after, ds = before ++ d :: after ∧
        (∀ e ∈ before, e.apiName.lowerCase ∉ g.entries.keys) ∧
        d.apiName.lowerCase ∈ g.entries.keys ∧
        g.registerAll ds = (⟨g.entries ++ entriesOf before⟩, some d.apiName) := by
  induction ds generalizing g with
  | nil => exact .inl ⟨nofun, registerAll_eq_none_iff.2 ⟨.nil, nofun, rfl⟩⟩
  | cons d ds ih =>
      obtain ⟨hfirst, hrest⟩ := List.pairwise_cons.1 hnames
      by_cases hd : d.apiName.lowerCase ∈ g.entries.keys
      · refine .inr ⟨[], d, ds, rfl, nofun, hd, ?_⟩
        have hg : (⟨g.entries ++ entriesOf []⟩ : Glossary Dimension) = g :=
          congrArg Glossary.mk (List.append_nil g.entries)
        rw [registerAll, register?_of_mem hd, hg]
      · -- The name of `d` is now taken as well, but none of the others has it.
        have htaken : ∀ e ∈ ds, e.apiName.lowerCase ∈
            Keyed.keys (g.entries ++ [(d.apiName.lowerCase, d)]) ↔
              e.apiName.lowerCase ∈ g.entries.keys := by
          intro e he
          rw [Keyed.keys, List.map_append, List.mem_append, List.map_singleton,
            List.mem_singleton]
          exact or_iff_left (Ne.symm (hfirst e he))
        have hentries : ∀ es, g.entries ++ [(d.apiName.lowerCase, d)] ++ entriesOf es =
            g.entries ++ entriesOf (d :: es) := fun _ => List.append_assoc ..
        rw [registerAll, register?_of_notMem hd]
        dsimp only
        rcases ih hrest ⟨g.entries ++ [(d.apiName.lowerCase, d)]⟩ with
          ⟨hnew, hall⟩ | ⟨before, e, after, rfl, hbefore, he, hstop⟩
        · refine .inl ⟨List.forall_mem_cons.2 ⟨hd, fun e he => ?_⟩, ?_⟩
          · exact mt (htaken e he).2 (hnew e he)
          · rw [hall, hentries]
        · refine .inr ⟨d :: before, e, after, rfl, List.forall_mem_cons.2 ⟨hd, fun u hu => ?_⟩,
            (htaken e (by simp)).1 he, ?_⟩
          · exact mt (htaken u (List.mem_append_left _ hu)).2 (hbefore u hu)
          · rw [hstop, hentries]

/-- Dimensions with different names are refused exactly if one of the names is taken. -/
theorem exists_registerAll_eq_some_iff
    (hnames : ds.Pairwise fun d e => d.apiName.lowerCase ≠ e.apiName.lowerCase) :
    (∃ name, (g.registerAll ds).2 = some name) ↔
      ∃ d ∈ ds, d.apiName.lowerCase ∈ g.entries.keys := by
  rcases registerAll_of_pairwise hnames g with ⟨hnew, hall⟩ |
    ⟨before, d, after, hsplit, -, hd, hstop⟩
  · rw [hall]
    exact iff_of_false (fun ⟨_, h⟩ => nomatch h) fun ⟨d, hd, hmem⟩ => hnew d hd hmem
  · rw [hstop]
    exact iff_of_true ⟨_, rfl⟩ ⟨d, by simp [hsplit], hd⟩

/-- A registration leaves a name of the dimensions taken, whether it is refused or not. -/
theorem exists_mem_keys_registerAll
    (hnames : ds.Pairwise fun d e => d.apiName.lowerCase ≠ e.apiName.lowerCase) (hds : ds ≠ [])
    (g : Glossary Dimension) :
    ∃ d ∈ ds, d.apiName.lowerCase ∈ (g.registerAll ds).1.entries.keys := by
  have hkeys : ∀ es, Keyed.keys (g.entries ++ entriesOf es) =
      g.entries.keys ++ (entriesOf es).keys := fun _ => List.map_append
  rcases registerAll_of_pairwise hnames g with ⟨-, hall⟩ |
    ⟨before, d, after, hsplit, -, hd, hstop⟩
  · obtain ⟨d, hd⟩ := List.exists_mem_of_ne_nil ds hds
    have hentry : d.apiName.lowerCase ∈ (entriesOf ds).keys :=
      List.mem_map.2 ⟨_, List.mem_map_of_mem hd, rfl⟩
    rw [hall, hkeys]
    exact ⟨d, hd, List.mem_append_right _ hentry⟩
  · rw [hstop, hkeys]
    exact ⟨d, by simp [hsplit], List.mem_append_left _ hd⟩

/-- A dimension behind the entries of a glossary that it does not clash with is found under its
name, if no other one has the name. -/
theorem get?_append_entriesOf
    (hnames : ds.Pairwise fun d e => d.apiName.lowerCase ≠ e.apiName.lowerCase) (hd : d ∈ ds)
    (hnew : d.apiName.lowerCase ∉ g.entries.keys) :
    get? ⟨g.entries ++ entriesOf ds⟩ d.apiName = some d := by
  have hkeys : (Keyed.keys (entriesOf ds)).Nodup := by
    rw [Keyed.keys, entriesOf, List.map_map]
    exact List.pairwise_map.2 hnames
  have hentry : (d.apiName.lowerCase, d) ∈ entriesOf ds := List.mem_map.2 ⟨d, hd, rfl⟩
  rw [get?, Keyed.get?_append, Keyed.get?_eq_none_iff.2 hnew, Option.none_or,
    (Keyed.get?_eq_some_iff hkeys).2 hentry]

end Glossary

/-! ### Dimensions with given names -/

namespace Dimension

variable {d : Dimension} {ds : List Dimension} {names : List String}

theorem mem_of_mem_namedIn (h : d ∈ namedIn ds names) : d ∈ ds := by
  obtain ⟨name, -, hfind⟩ := List.mem_filterMap.1 h
  exact List.mem_of_find?_eq_some hfind

/-- The dimensions with given names have those of the names that are names of dimensions, as often
as they are given and in the order in which they are given. -/
theorem map_apiName_namedIn (ds : List Dimension) (names : List String) :
    (namedIn ds names).map (·.apiName) = names.filter (· ∈ ds.map (·.apiName)) := by
  induction names with
  | nil => rfl
  | cons name names ih =>
      rw [namedIn] at ih ⊢
      cases hfind : ds.find? (·.apiName == name) with
      | none =>
          have hunknown : name ∉ ds.map (·.apiName) := by
            intro hmem
            obtain ⟨d, hd, hname⟩ := List.mem_map.1 hmem
            exact List.find?_eq_none.1 hfind d hd (beq_iff_eq.2 hname)
          rw [List.filterMap_cons, hfind, List.filter_cons_of_neg (by simpa using hunknown), ← ih]
      | some d =>
          have hname : d.apiName = name := by simpa using List.find?_some hfind
          have hknown : name ∈ ds.map (·.apiName) :=
            List.mem_map.2 ⟨d, List.mem_of_find?_eq_some hfind, hname⟩
          rw [List.filterMap_cons, hfind, List.filter_cons_of_pos (by simpa using hknown), ← ih,
            ← hname, List.map_cons]

end Dimension

/-! ### Loaded dimensions -/

namespace Glossary

/-- **Registration of loaded dimensions** in a glossary that has been made of any dimensions and has
been through any calls.

* The registration is refused exactly if one of the dimensions has the name of an item that the
  glossary already holds, in whichever letter case.  It is never refused by an empty glossary, and
  always when it is repeated, unless no dimension was loaded.
* If it is not refused, the glossary holds its old items and behind them all loaded dimensions, in
  the order of the descriptions, and finds each dimension that is asked for by name under its name.
* If it is refused, the glossary holds its old items and behind them exactly the dimensions in front
  of the first one that clashes with an old item, and the refusal has the name of this one.
* The dimensions with given names have exactly those of the names that are loaded, in the order and
  as often as they are given. -/
theorem registerAll_of_load {config : DimensionConfig} {rows : Rows} {ds : List Dimension}
    (hload : (config.load rows).outcome = .ok ds) (initial : List Dimension)
    (calls : List (Call Dimension)) :
    ∃ start, ofItems initial = .ok start ∧
      let g := start.run calls
      ds.map (·.apiName) = config.dimensions.map (·.apiName) ∧
      ((∃ name, (g.registerAll ds).2 = some name) ↔ ∃ d ∈ ds, g.Clashes d) ∧
      (g.items = [] → (g.registerAll ds).2 = none) ∧
      (ds ≠ [] → ∃ name, ((g.registerAll ds).1.registerAll ds).2 = some name) ∧
      ((g.registerAll ds).2 = none →
        (g.registerAll ds).1.items = g.items ++ ds ∧
        ∀ names, ∀ d ∈ Dimension.namedIn ds names,
          (g.registerAll ds).1.find (.text d.apiName) = .ok (some d)) ∧
      (∀ name, (g.registerAll ds).2 = some name →
        ∃ before d after, ds = before ++ d :: after ∧ name = d.apiName ∧ g.Clashes d ∧
          (∀ e ∈ before, ¬ g.Clashes e) ∧ (g.registerAll ds).1.items = g.items ++ before) ∧
      ∀ names, (∀ d ∈ Dimension.namedIn ds names, d ∈ ds) ∧
        (Dimension.namedIn ds names).map (·.apiName) =
          names.filter (· ∈ ds.map (·.apiName)) := by
  have hnames := DimensionConfig.pairwise_of_load_eq_ok hload
  have htexts : ∀ d ∈ initial, Named.hasText d = true := fun _ _ => rfl
  obtain ⟨start, hstart, hfirst⟩ := exists_ofItems_eq_ok htexts
  refine ⟨start, hstart, ?_⟩
  intro g
  have hclash : ∀ d, g.Clashes d ↔ d.apiName.lowerCase ∈ g.entries.keys := fun d =>
    (hfirst.run calls).clashes_iff
  simp only [hclash]
  refine ⟨DimensionConfig.map_apiName_of_forall₂ (DimensionConfig.load_eq_ok_iff.1 hload).2,
    exists_registerAll_eq_some_iff hnames, fun hitems => ?_,
    fun hds => (exists_registerAll_eq_some_iff hnames).2 (exists_mem_keys_registerAll hnames hds g),
    ?_, ?_, fun names =>
    ⟨fun d => Dimension.mem_of_mem_namedIn, Dimension.map_apiName_namedIn ds names⟩⟩
  · by_contra hsome
    obtain ⟨name, hname⟩ := Option.ne_none_iff_exists'.1 hsome
    obtain ⟨d, -, hd⟩ := (exists_registerAll_eq_some_iff hnames).1 ⟨name, hname⟩
    obtain ⟨old, hold, -⟩ := (hclash d).2 hd
    rw [hitems] at hold
    exact absurd hold List.not_mem_nil
  · intro hnone
    rcases registerAll_of_pairwise hnames g with ⟨hnew, hall⟩ | ⟨_, _, _, -, -, -, hstop⟩
    · rw [hall, items_append_entriesOf]
      refine ⟨rfl, fun names d hd => ?_⟩
      have hmem := Dimension.mem_of_mem_namedIn hd
      exact congrArg Except.ok (get?_append_entriesOf hnames hmem (hnew d hmem))
    · rw [hstop] at hnone
      exact nomatch hnone
  · intro name hsome
    rcases registerAll_of_pairwise hnames g with ⟨-, hall⟩ |
      ⟨before, d, after, hsplit, hbefore, hd, hstop⟩
    · rw [hall] at hsome
      exact nomatch hsome
    · rw [hstop] at hsome
      rw [hstop, items_append_entriesOf]
      exact ⟨before, d, after, hsplit, (Option.some.inj hsome).symm, hd, hbefore, rfl⟩

/-- Two loaded dimensions in an empty glossary, and in one that has the second one under another
spelling of its name. -/
theorem registerAll_of_load_pages :
    let page : DimensionTemplate := ⟨"page", "", "", "General", .usual⟩
    let user : DimensionTemplate := ⟨"user", "", "", "General", .listed []⟩
    let config : DimensionConfig := ⟨[], [page, user]⟩
    let other : Dimension := .make "USER" "" "" "" [] []
    ∃ ds, (config.load .empty).outcome = .ok ds ∧ ds.map (·.apiName) = ["page", "user"] ∧
      (Dimension.namedIn ds ["user", "day", "user"]).map (·.apiName) = ["user", "user"] ∧
      (empty.registerAll ds).1.items = ds ∧
      ∃ name, ((empty.run [.register other]).registerAll ds).2 = some name := by
  intro page user config other
  have hadmits : config.Admits config.dimensions := by
    refine ⟨by decide, ?_⟩
    simp only [config, List.forall_mem_cons]
    exact ⟨nofun, nofun, nofun⟩
  obtain ⟨ds, hload⟩ := DimensionConfig.exists_load_eq_ok_iff.2 hadmits
  obtain ⟨start, hstart, hnames, -, hfree, -, hall, -, hnamed⟩ := registerAll_of_load hload [] []
  obtain ⟨start', hstart', -, hrefused, -⟩ := registerAll_of_load hload [] [.register other]
  obtain rfl : empty = start := Except.ok.inj hstart
  obtain rfl : empty = start' := Except.ok.inj hstart'
  refine ⟨ds, hload, hnames, ?_, (hall (hfree rfl)).1, hrefused.2 ?_⟩
  · rw [(hnamed _).2, hnames]
    decide
  · have huser : "user" ∈ ds.map (·.apiName) := by
      rw [hnames]
      decide
    obtain ⟨d, hd, hname⟩ := List.mem_map.1 huser
    refine ⟨d, hd, other, List.mem_cons_self, ?_⟩
    rw [hname]
    decide +kernel

end Glossary

end MetricQuery
