import MetricQuery.Proofs.Distinct
import MetricQuery.Proofs.Outcome
import MetricQuery.Proofs.Rows.Attach

/-!
# Loading of dimensions

A load takes the descriptions of a configuration in their order.  A description is refused if it
repeats a name or names an unknown set of fields, and the first one that is refused ends the load
(`DimensionConfig.Refuses`).  Each one before it gives the dimension that it describes
(`DimensionConfig.Describes`) and attaches its name to the store and the provider of the name.

So the load succeeds exactly if no description is refused, and what is left of a failed load are the
stores and providers of the descriptions before the refused one.

## Main definitions

* `DimensionConfig.Describes` : the dimension that a description describes.
* `DimensionConfig.Admits` : descriptions none of which is refused.
* `DimensionConfig.Refuses` : the fault of a description behind others.

## Main results

* `DimensionConfig.dimension_eq_ok_iff`, `DimensionConfig.dimension_eq_error_iff` : one description.
* `DimensionConfig.loadAll_eq_ok_iff`, `DimensionConfig.loadAll_eq_error_iff` : several ones.
* `DimensionConfig.exists_load_eq_ok_iff`, `DimensionConfig.exists_of_load_eq_error` : a
  configuration.
* `DimensionConfig.load_describes_and_attaches` : a configuration, with all that a load leaves.
-/

namespace MetricQuery

namespace DimensionConfig

/-! ### Descriptions -/

/-- The dimension `d` is the one that a description describes: it has the texts of the description,
with the api name for an empty long name, and is bound to the store and provider of its name.  Its
fields, which are its default fields too, are those of the usual set, of the named set or of the
list, without repeats. -/
structure Describes (config : DimensionConfig) (t : DimensionTemplate) (d : Dimension) : Prop where
  apiName : d.apiName = t.apiName
  description : d.description = t.description
  longName : d.longName = if t.longName = "" then t.apiName else t.longName
  category : d.category = t.category
  usual : t.fields = .usual →
    d.fields = ((config.fieldSets.get? "default").getD []).eraseDups
  named : ∀ set, t.fields = .named set →
    ∃ fields, config.fieldSets.get? set = some fields ∧ d.fields = fields.eraseDups
  listed : ∀ fields, t.fields = .listed fields → d.fields = fields.eraseDups
  defaultFields : d.defaultFields = d.fields
  store : d.store = some t.apiName
  provider : d.provider = some t.apiName

/-- Descriptions none of which is refused: no name comes up twice, in whichever letter case, and
every named set of fields is defined. -/
structure Admits (config : DimensionConfig) (ts : List DimensionTemplate) : Prop where
  names : ts.Pairwise fun t u => t.apiName.lowerCase ≠ u.apiName.lowerCase
  sets : ∀ t ∈ ts, ∀ set, t.fields = .named set → set ∈ config.fieldSets.keys

/-- The fault of a description that is refused behind others.  Its name is looked at before its set
of fields. -/
inductive Refuses (config : DimensionConfig) (before : List DimensionTemplate)
    (t : DimensionTemplate) : CatalogFault → Prop
  | repeated (u : DimensionTemplate) (hu : u ∈ before)
      (hname : u.apiName.lowerCase = t.apiName.lowerCase) :
      Refuses config before t (.dimensionRepeated t.apiName)
  | unknownSet (set : String) (hset : t.fields = .named set)
      (hunknown : set ∉ config.fieldSets.keys)
      (hnew : ∀ u ∈ before, u.apiName.lowerCase ≠ t.apiName.lowerCase) :
      Refuses config before t (.config (.unknownFieldSet t.apiName set config.fieldSets.keys))

section OneDescription

variable {config : DimensionConfig} {t : DimensionTemplate} {d d' : Dimension}
  {seen : List String} {fault : CatalogFault}

/-- A description describes one dimension at most. -/
theorem Describes.unique (h : config.Describes t d) (h' : config.Describes t d') : d = d' := by
  have hfields : d.fields = d'.fields := by
    cases ht : t.fields with
    | usual => exact (h.usual ht).trans (h'.usual ht).symm
    | listed fields => exact (h.listed fields ht).trans (h'.listed fields ht).symm
    | named set =>
        obtain ⟨fields, hset, hd⟩ := h.named set ht
        obtain ⟨fields', hset', hd'⟩ := h'.named set ht
        obtain rfl := Option.some.inj (hset.symm.trans hset')
        exact hd.trans hd'.symm
  obtain ⟨hapi, htext, hlong, hcategory, -, -, -, hdefault, hstore, hprovider⟩ := h
  obtain ⟨hapi', htext', hlong', hcategory', -, -, -, hdefault', hstore', hprovider'⟩ := h'
  cases d
  cases d'
  simp_all

theorem fieldsOf_eq_error_iff {fault : ConfigFault} :
    config.fieldsOf t = .error fault ↔ ∃ set, t.fields = .named set ∧
      set ∉ config.fieldSets.keys ∧
        fault = .unknownFieldSet t.apiName set config.fieldSets.keys := by
  rw [fieldsOf]
  cases ht : t.fields with
  | usual | listed => simp
  | named set =>
      cases hset : config.fieldSets.get? set with
      | none =>
          have hunknown := Keyed.get?_eq_none_iff.1 hset
          dsimp only
          rw [hset]
          constructor
          · intro h
            obtain rfl := Except.error.inj h
            exact ⟨set, rfl, hunknown, rfl⟩
          · rintro ⟨_, ⟨⟩, -, rfl⟩
            rfl
      | some fields =>
          have hknown : set ∈ config.fieldSets.keys := by
            by_contra hunknown
            exact nomatch hset.symm.trans (Keyed.get?_eq_none_iff.2 hunknown)
          dsimp only
          rw [hset]
          constructor
          · exact fun h => nomatch h
          · rintro ⟨_, ⟨⟩, hunknown, -⟩
            exact absurd hknown hunknown

/-- The dimension that is made with the fields of a description is the one described. -/
theorem describes_make {fields : List DimensionField} (h : config.fieldsOf t = .ok fields) :
    config.Describes t
      { Dimension.make t.apiName t.description t.longName t.category fields fields with
        store := some t.apiName, provider := some t.apiName } := by
  have hfields : distinct fields = fields.eraseDups := distinct_eq_eraseDups fields
  rw [fieldsOf] at h
  refine ⟨rfl, rfl, rfl, rfl, fun ht => ?_, fun set ht => ?_, fun given ht => ?_, rfl, rfl, rfl⟩
  · rw [ht] at h
    obtain rfl := Except.ok.inj h
    exact hfields
  · rw [ht] at h
    dsimp only at h
    cases hset : config.fieldSets.get? set with
    | none =>
        rw [hset] at h
        exact nomatch h
    | some found =>
        rw [hset] at h
        obtain rfl := Except.ok.inj h
        exact ⟨found, rfl, hfields⟩
  · rw [ht] at h
    obtain rfl := Except.ok.inj h
    exact hfields

/-- A description with a new name gives the dimension that it describes. -/
theorem dimension_eq_ok_iff :
    config.dimension seen t = .ok d ↔ t.apiName.lowerCase ∉ seen ∧ config.Describes t d := by
  rw [dimension]
  by_cases hseen : t.apiName.lowerCase ∈ seen
  · rw [if_pos (List.contains_iff_mem.2 hseen)]
    exact ⟨(nomatch ·), fun h => absurd hseen h.1⟩
  rw [if_neg fun h => hseen (List.contains_iff_mem.1 h)]
  cases hfields : config.fieldsOf t with
  | error fault =>
      constructor
      · exact fun h => nomatch h
      · rintro ⟨-, h⟩
        obtain ⟨set, ht, hunknown, -⟩ := fieldsOf_eq_error_iff.1 hfields
        obtain ⟨fields, hset, -⟩ := h.named set ht
        exact nomatch hset.symm.trans (Keyed.get?_eq_none_iff.2 hunknown)
  | ok fields =>
      have hmade := describes_make hfields
      constructor
      · intro h
        obtain rfl := Except.ok.inj h
        exact ⟨hseen, hmade⟩
      · rintro ⟨-, h⟩
        exact congrArg Except.ok (hmade.unique h)

/-- A description fails exactly if it is refused behind those whose names have been seen. -/
theorem dimension_eq_error_iff {before : List DimensionTemplate}
    (hseen : ∀ name, name ∈ seen ↔ ∃ u ∈ before, u.apiName.lowerCase = name) :
    config.dimension seen t = .error fault ↔ config.Refuses before t fault := by
  rw [dimension]
  by_cases hname : t.apiName.lowerCase ∈ seen
  · rw [if_pos (List.contains_iff_mem.2 hname)]
    obtain ⟨u, hu, hut⟩ := (hseen _).1 hname
    constructor
    · intro h
      obtain rfl := Except.error.inj h
      exact .repeated u hu hut
    · rintro (_ | ⟨_, -, -, hnew⟩)
      · rfl
      · exact absurd hut (hnew u hu)
  rw [if_neg fun h => hname (List.contains_iff_mem.1 h)]
  have hnew : ∀ u ∈ before, u.apiName.lowerCase ≠ t.apiName.lowerCase := fun u hu hut =>
    hname ((hseen _).2 ⟨u, hu, hut⟩)
  cases hfields : config.fieldsOf t with
  | error configFault =>
      obtain ⟨set, hset, hunknown, rfl⟩ := fieldsOf_eq_error_iff.1 hfields
      constructor
      · intro h
        obtain rfl := Except.error.inj h
        exact .unknownSet set hset hunknown hnew
      · rintro (⟨u, hu, hut⟩ | ⟨set', hset', -, -⟩)
        · exact absurd hut (hnew u hu)
        · obtain rfl := FieldChoice.named.inj (hset.symm.trans hset')
          rfl
  | ok fields =>
      constructor
      · exact fun h => nomatch h
      · rintro (⟨u, hu, hut⟩ | ⟨set, hset, hunknown, -⟩)
        · exact absurd hut (hnew u hu)
        · exact nomatch hfields.symm.trans (fieldsOf_eq_error_iff.2 ⟨set, hset, hunknown, rfl⟩)

/-- Only an unknown set of fields keeps a description from describing a dimension. -/
theorem exists_describes (h : ∀ set, t.fields = .named set → set ∈ config.fieldSets.keys) :
    ∃ d, config.Describes t d := by
  cases hfields : config.fieldsOf t with
  | ok fields => exact ⟨_, describes_make hfields⟩
  | error fault =>
      obtain ⟨set, hset, hunknown, -⟩ := fieldsOf_eq_error_iff.1 hfields
      exact absurd (h set hset) hunknown

end OneDescription

/-! ### Several descriptions -/

section Descriptions

variable {config : DimensionConfig} {t : DimensionTemplate} {ts before : List DimensionTemplate}
  {d : Dimension} {ds : List Dimension} {seen : List String} {rows rows' : Rows}
  {fault : CatalogFault}

theorem loadAll_cons_of_error (h : config.dimension seen t = .error fault) :
    config.loadAll seen rows (t :: ts) = (rows, .error fault) := by
  rw [loadAll, h]

theorem loadAll_cons_of_ok (h : config.dimension seen t = .ok d) :
    config.loadAll seen rows (t :: ts) =
      ((config.loadAll (t.apiName.lowerCase :: seen) (rows.attach t.apiName) ts).1,
        (config.loadAll (t.apiName.lowerCase :: seen) (rows.attach t.apiName) ts).2.map
          (d :: ·)) := by
  rw [loadAll, h]

/-- Descriptions that go through give the dimensions that they describe and attach their names. -/
theorem loadAll_eq_ok_iff :
    config.loadAll seen rows ts = (rows', .ok ds) ↔
      (ts.Pairwise fun t u => t.apiName.lowerCase ≠ u.apiName.lowerCase) ∧
      (∀ t ∈ ts, t.apiName.lowerCase ∉ seen) ∧ List.Forall₂ config.Describes ts ds ∧
      rows' = rows.attachAll (ts.map (·.apiName)) := by
  induction ts generalizing seen rows ds with
  | nil =>
      rw [loadAll, Prod.mk.injEq, Except.ok.injEq, List.forall₂_nil_left_iff]
      constructor
      · rintro ⟨rfl, rfl⟩
        exact ⟨.nil, nofun, rfl, rfl⟩
      · rintro ⟨-, -, rfl, rfl⟩
        exact ⟨rfl, rfl⟩
  | cons t ts ih =>
      rw [List.pairwise_cons, List.forall_mem_cons]
      cases hd : config.dimension seen t with
      | error fault =>
          rw [loadAll_cons_of_error hd]
          constructor
          · exact fun h => nomatch h
          · rintro ⟨-, ⟨hnew, -⟩, hall, -⟩
            obtain ⟨d, -, hdescribes, -, -⟩ := List.forall₂_cons_left_iff.1 hall
            exact nomatch hd.symm.trans (dimension_eq_ok_iff.2 ⟨hnew, hdescribes⟩)
      | ok d =>
          obtain ⟨hnew, hdescribes⟩ := dimension_eq_ok_iff.1 hd
          rw [loadAll_cons_of_ok hd, Prod.mk.injEq, Except.map_eq_ok_iff]
          constructor
          · rintro ⟨hrows, rest, hrest, rfl⟩
            obtain ⟨hnames, hunseen, hall, hattach⟩ := ih.1 (Prod.ext hrows hrest)
            refine ⟨⟨fun u hu heq => ?_, hnames⟩, ⟨hnew, fun u hu hmem => ?_⟩,
              .cons hdescribes hall, hattach⟩
            · exact hunseen u hu (List.mem_cons.2 (.inl heq.symm))
            · exact hunseen u hu (List.mem_cons_of_mem _ hmem)
          · rintro ⟨⟨hfirst, hnames⟩, ⟨-, hunseen⟩, hall, hattach⟩
            obtain ⟨d', rest, hd', hrest, rfl⟩ := List.forall₂_cons_left_iff.1 hall
            have hunseen' : ∀ u ∈ ts, u.apiName.lowerCase ∉ t.apiName.lowerCase :: seen := by
              intro u hu hmem
              rcases List.mem_cons.1 hmem with heq | hmem
              · exact hfirst u hu heq.symm
              · exact hunseen u hu hmem
            have hloaded := ih.2 ⟨hnames, hunseen', hrest, hattach⟩
            rw [hloaded, hdescribes.unique hd']
            exact ⟨rfl, rest, rfl, rfl⟩

/-- Descriptions fail at the first one that fails behind those that go through. -/
theorem loadAll_eq_error_iff :
    config.loadAll seen rows ts = (rows', .error fault) ↔
      ∃ before t after, ts = before ++ t :: after ∧
        (∃ ds, config.loadAll seen rows before = (rows', .ok ds)) ∧
        config.dimension ((before.map (·.apiName.lowerCase)).reverse ++ seen) t = .error fault := by
  constructor
  · intro h
    induction ts generalizing seen rows with
    | nil => exact nomatch h
    | cons t ts ih =>
        cases hd : config.dimension seen t with
        | error fault' =>
            rw [loadAll_cons_of_error hd, Prod.mk.injEq, Except.error.injEq] at h
            obtain ⟨rfl, rfl⟩ := h
            exact ⟨[], t, ts, rfl, ⟨[], rfl⟩, hd⟩
        | ok d =>
            rw [loadAll_cons_of_ok hd, Prod.mk.injEq] at h
            obtain ⟨hrows, hfault⟩ := h
            have hrest : (config.loadAll (t.apiName.lowerCase :: seen) (rows.attach t.apiName)
                ts).2 = .error fault := by
              revert hfault
              cases (config.loadAll (t.apiName.lowerCase :: seen) (rows.attach t.apiName) ts).2 with
              | ok ds => exact fun h => nomatch h
              | error fault' => exact fun h => congrArg Except.error (Except.error.inj h)
            obtain ⟨before, u, after, rfl, ⟨ds, hbefore⟩, hu⟩ := ih (Prod.ext hrows hrest)
            refine ⟨t :: before, u, after, rfl, ⟨d :: ds, ?_⟩, ?_⟩
            · rw [loadAll_cons_of_ok hd, hbefore]
              rfl
            · rw [List.map_cons, List.reverse_cons, List.append_assoc, List.singleton_append]
              exact hu
  · rintro ⟨before, t, after, rfl, ⟨ds, hbefore⟩, ht⟩
    induction before generalizing seen rows ds with
    | nil =>
        obtain ⟨rfl, -⟩ := Prod.mk.inj hbefore
        exact loadAll_cons_of_error ht
    | cons u before ih =>
        cases hu : config.dimension seen u with
        | error fault' =>
            rw [loadAll_cons_of_error hu] at hbefore
            exact nomatch hbefore
        | ok d =>
            rw [loadAll_cons_of_ok hu, Prod.mk.injEq, Except.map_eq_ok_iff] at hbefore
            obtain ⟨hrows, rest, hrest, -⟩ := hbefore
            rw [List.map_cons, List.reverse_cons, List.append_assoc, List.singleton_append] at ht
            have hloaded := ih ht rest (Prod.ext hrows hrest)
            rw [List.cons_append, loadAll_cons_of_ok hu, hloaded]
            rfl

/-- Admitted descriptions describe a dimension each. -/
theorem Admits.exists_forall₂ (h : config.Admits ts) :
    ∃ ds, List.Forall₂ config.Describes ts ds := by
  have hsets := h.sets
  clear h
  induction ts with
  | nil => exact ⟨[], .nil⟩
  | cons t ts ih =>
      obtain ⟨ht, hts⟩ := List.forall_mem_cons.1 hsets
      obtain ⟨d, hd⟩ := exists_describes ht
      obtain ⟨ds, hds⟩ := ih hts
      exact ⟨d :: ds, .cons hd hds⟩

/-- Described descriptions with different names are admitted. -/
theorem admits_of_forall₂
    (hnames : ts.Pairwise fun t u => t.apiName.lowerCase ≠ u.apiName.lowerCase)
    (hall : List.Forall₂ config.Describes ts ds) : config.Admits ts := by
  refine ⟨hnames, fun t ht set hset => ?_⟩
  obtain ⟨d, -, hdescribes⟩ := hall.exists_of_mem_left ht
  obtain ⟨fields, hfields, -⟩ := hdescribes.named set hset
  by_contra hunknown
  exact nomatch hfields.symm.trans (Keyed.get?_eq_none_iff.2 hunknown)

theorem Admits.nodup_apiNames (h : config.Admits ts) : (ts.map (·.apiName)).Nodup :=
  List.pairwise_map.2 (h.names.imp fun hne heq => hne (congrArg String.lowerCase heq))

end Descriptions

/-! ### Configurations -/

section Configurations

variable {config : DimensionConfig} {ds : List Dimension} {rows : Rows} {fault : CatalogFault}

/-- What a load leaves and leads to is settled by the descriptions. -/
theorem loadAll_eq_load (config : DimensionConfig) (rows : Rows) :
    config.loadAll [] rows config.dimensions =
      ((config.load rows).rows, (config.load rows).outcome) := by
  rw [load]
  cases hload : config.loadAll [] rows config.dimensions with
  | mk rows' outcome => cases outcome <;> rfl

theorem load_eq_ok_iff :
    (config.load rows).outcome = .ok ds ↔
      config.Admits config.dimensions ∧ List.Forall₂ config.Describes config.dimensions ds := by
  have hload := loadAll_eq_load config rows
  constructor
  · intro h
    rw [h] at hload
    obtain ⟨hnames, -, hall, -⟩ := loadAll_eq_ok_iff.1 hload
    exact ⟨admits_of_forall₂ hnames hall, hall⟩
  · rintro ⟨hadmits, hall⟩
    have hloaded : config.loadAll [] rows config.dimensions = (_, .ok ds) :=
      loadAll_eq_ok_iff.2 ⟨hadmits.names, fun _ _ h => absurd h List.not_mem_nil, hall, rfl⟩
    exact (congrArg Prod.snd hload).symm.trans (congrArg Prod.snd hloaded)

/-- A load succeeds exactly if no description is refused. -/
theorem exists_load_eq_ok_iff :
    (∃ ds, (config.load rows).outcome = .ok ds) ↔ config.Admits config.dimensions := by
  constructor
  · rintro ⟨ds, h⟩
    exact (load_eq_ok_iff.1 h).1
  · intro h
    obtain ⟨ds, hds⟩ := h.exists_forall₂
    exact ⟨ds, load_eq_ok_iff.2 ⟨h, hds⟩⟩

/-- A load that succeeds leaves all names of the configuration attached. -/
theorem attached_of_load_eq_ok (h : (config.load rows).outcome = .ok ds) :
    rows.Attached (config.dimensions.map (·.apiName)) (config.load rows).rows := by
  have hload := loadAll_eq_load config rows
  rw [h] at hload
  obtain ⟨-, -, -, hrows⟩ := loadAll_eq_ok_iff.1 hload
  rw [hrows]
  exact Rows.attached_attachAll (load_eq_ok_iff.1 h).1.nodup_apiNames rows

/-- A load that fails does so at the first description that is refused, and leaves the names before
it attached. -/
theorem exists_of_load_eq_error (h : (config.load rows).outcome = .error fault) :
    ∃ before t after, config.dimensions = before ++ t :: after ∧ config.Admits before ∧
      config.Refuses before t fault ∧
      rows.Attached (before.map (·.apiName)) (config.load rows).rows := by
  have hload := loadAll_eq_load config rows
  rw [h] at hload
  obtain ⟨before, t, after, hsplit, ⟨ds, hbefore⟩, ht⟩ := loadAll_eq_error_iff.1 hload
  obtain ⟨hnames, -, hall, hrows⟩ := loadAll_eq_ok_iff.1 hbefore
  have hadmits : config.Admits before := admits_of_forall₂ hnames hall
  refine ⟨before, t, after, hsplit, hadmits, (dimension_eq_error_iff fun name => ?_).1 ht, ?_⟩
  · simp
  · rw [hrows]
    exact Rows.attached_attachAll hadmits.nodup_apiNames rows

end Configurations

/-- **A load of dimensions.**  It succeeds exactly if no two descriptions have one name, in
whichever letter case, and every named set of fields is defined.

* If it succeeds, there is one dimension for each description, in the order of the descriptions, and
  it is the described one.  All names are attached: the new ones among them are added to the stores
  and to the providers, in their order.
* If it fails, it does so at the first description that repeats a name or names an unknown set, and
  the names of the descriptions before this one are attached.

In both cases no row of any store changes, and only the providers of the attached names are bound
anew, each to the store of its name. -/
theorem load_describes_and_attaches (config : DimensionConfig) (rows : Rows) :
    ((∃ ds, (config.load rows).outcome = .ok ds) ↔ config.Admits config.dimensions) ∧
    (∀ ds, (config.load rows).outcome = .ok ds →
      List.Forall₂ config.Describes config.dimensions ds ∧
      rows.Attached (config.dimensions.map (·.apiName)) (config.load rows).rows) ∧
    (∀ fault, (config.load rows).outcome = .error fault →
      ∃ before t after, config.dimensions = before ++ t :: after ∧ config.Admits before ∧
        config.Refuses before t fault ∧
        rows.Attached (before.map (·.apiName)) (config.load rows).rows) ∧
    ∀ name, (config.load rows).rows.store name = rows.store name := by
  refine ⟨exists_load_eq_ok_iff, fun ds h => ⟨(load_eq_ok_iff.1 h).2, attached_of_load_eq_ok h⟩,
    fun fault => exists_of_load_eq_error, fun name => ?_⟩
  cases h : (config.load rows).outcome with
  | ok ds => exact (attached_of_load_eq_ok h).store_eq name
  | error fault =>
      obtain ⟨_, _, _, -, -, -, hattached⟩ := exists_of_load_eq_error h
      exact hattached.store_eq name

/-- A load that goes through, and one that ends at a name that comes up twice. -/
theorem load_describes_and_attaches_pages :
    let page : DimensionTemplate := ⟨"page", "", "", "General", .usual⟩
    let user : DimensionTemplate := ⟨"user", "", "A user", "General", .listed []⟩
    let again : DimensionTemplate := ⟨"Page", "", "", "General", .named "default"⟩
    let config : DimensionConfig := ⟨[("default", [⟨"id", ""⟩, ⟨"id", ""⟩])], [page, user]⟩
    let longer : DimensionConfig := { config with dimensions := [page, user, again] }
    let rows : Rows := ⟨[("user", [("u1", .text "one")])], [("user", none), ("old", some "user")]⟩
    (∃ ds, (config.load rows).outcome = .ok ds ∧ List.Forall₂ config.Describes [page, user] ds ∧
      rows.Attached ["page", "user"] (config.load rows).rows) ∧
    ∃ fault before t after, (longer.load rows).outcome = .error fault ∧
      [page, user, again] = before ++ t :: after ∧ longer.Refuses before t fault ∧
      rows.Attached (before.map (·.apiName)) (longer.load rows).rows ∧
      (longer.load rows).rows.store "user" = [("u1", .text "one")] := by
  intro page user again config longer rows
  constructor
  · obtain ⟨hok, hdescribes, -, -⟩ := load_describes_and_attaches config rows
    have hadmits : config.Admits config.dimensions := by
      refine ⟨by decide, fun t ht set hset => ?_⟩
      have hfields : ∀ t ∈ config.dimensions, ∀ set, t.fields ≠ .named set := by
        simp only [config, List.forall_mem_cons]
        exact ⟨nofun, nofun, nofun⟩
      exact absurd hset (hfields t ht set)
    obtain ⟨ds, hds⟩ := hok.2 hadmits
    obtain ⟨hall, hattached⟩ := hdescribes ds hds
    exact ⟨ds, hds, hall, hattached⟩
  · obtain ⟨hok, -, hrefused, hstore⟩ := load_describes_and_attaches longer rows
    have hrepeated : ¬ longer.Admits longer.dimensions := fun h => absurd h.names (by decide)
    cases houtcome : (longer.load rows).outcome with
    | ok ds => exact absurd (hok.1 ⟨ds, houtcome⟩) hrepeated
    | error fault =>
        obtain ⟨before, t, after, hsplit, -, hrefuses, hattached⟩ := hrefused fault houtcome
        exact ⟨fault, before, t, after, rfl, hsplit, hrefuses, hattached, hstore "user"⟩

end DimensionConfig

end MetricQuery
