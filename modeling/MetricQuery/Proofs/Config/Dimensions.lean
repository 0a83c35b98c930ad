import MetricQuery.Config.File
import MetricQuery.Proofs.Config.Entries
import MetricQuery.Proofs.Keyed

/-!
# The grammar of dimension documents

A dimension document is a map with named sets of fields and a list of dimensions.  Its grammar is
stated here without the checks: which document is a field, a choice of fields, a dimension or a
whole configuration, and of which one.  A key can be spelled in two ways, and the first spelling
counts if both are there.  An absent text has a default, and null stands for an absent value at one
place only, the fields of a dimension.

A plain document passes the check of configurations exactly if it is a configuration in this sense,
or counts as absent, and the check gives the configuration that it is
(`DimensionConfig.dimensionConfig_iff_grammar`).  Other entries of the maps make no difference.

## Main definitions

* `Datum.IsField`, `Datum.IsFieldItem`, `Datum.IsFieldChoice` : documents of fields.
* `Datum.IsDimension`, `Datum.IsFieldSet` : documents of a dimension and of a set of fields.
* `Datum.IsDimensionConfig` : documents of a configuration.
* `DimensionConfig.trim` : a document without the entries that no check looks at.

## Main results

* `DimensionField.check_eq_ok_iff`, `FieldChoice.check_eq_ok_iff`,
  `DimensionTemplate.check_eq_ok_iff` : the checks of the parts.
* `DimensionConfig.check_trim` : other entries make no difference.
* `DimensionConfig.dimensionConfig_iff_grammar` : the check of a plain document.
-/

namespace MetricQuery

namespace Datum

/-! ### Grammar -/

/-- A document is the map of a field, with its name and perhaps a description. -/
structure IsField (d : Datum) (f : DimensionField) : Prop where
  name : d.Gives ["name"] (.text f.name)
  description : d.TextOr ["description"] "" f.description

/-- A document in a list of fields names a field, or is one. -/
def IsFieldItem (d : Datum) (f : DimensionField) : Prop :=
  d = .text f.name ∧ f.description = "" ∨ d.IsField f

/-- A document chooses fields: none of its own, a named set, or a list. -/
inductive IsFieldChoice : Datum → FieldChoice → Prop
  | usual : IsFieldChoice .null .usual
  | named (set : String) : IsFieldChoice (.text set) (.named set)
  | listed {items : List Datum} {fields : List DimensionField}
      (hfields : List.Forall₂ IsFieldItem items fields) :
      IsFieldChoice (.list items) (.listed fields)

/-- A document is the map of a dimension. -/
structure IsDimension (d : Datum) (t : DimensionTemplate) : Prop where
  apiName : d.Gives ["apiName", "api_name"] (.text t.apiName)
  description : d.TextOr ["description"] "" t.description
  longName : d.TextOr ["longName", "long_name"] "" t.longName
  category : d.TextOr ["category"] "General" t.category
  fields : d.Omits ["fields"] ∧ t.fields = .usual ∨
    ∃ value, d.Gives ["fields"] value ∧ value.IsFieldChoice t.fields

/-- An entry is a set of fields with its name. -/
structure IsFieldSet (entry : Datum × Datum) (set : String × List DimensionField) : Prop where
  name : entry.1 = .text set.1
  fields : ∃ items, entry.2 = .list items ∧ List.Forall₂ IsField items set.2

/-- A document is the map of a configuration, with its sets of fields and its dimensions in their
order. -/
structure IsDimensionConfig (d : Datum) (config : DimensionConfig) : Prop where
  isMap : ∃ entries, d = .map entries
  fieldSets : d.Omits ["fieldSets", "field_sets"] ∧ config.fieldSets = [] ∨
    ∃ entries, d.Gives ["fieldSets", "field_sets"] (.map entries) ∧
      List.Forall₂ IsFieldSet entries config.fieldSets
  dimensions : d.Omits ["dimensions"] ∧ config.dimensions = [] ∨
    ∃ items, d.Gives ["dimensions"] (.list items) ∧
      List.Forall₂ IsDimension items config.dimensions

end Datum

/-! ### Checks of the parts -/

section Parts

variable {d : Datum}

theorem DimensionConfig.checkList_eq_ok_iff {α : Type} {check : Datum → Checked α}
    {R : Datum → α → Prop} (h : d.Plain) (hcheck : ∀ d, d.Plain → ∀ a, check d = .ok a ↔ R d a)
    (values : List α) :
    checkList check d = .ok values ↔ ∃ items, d = .list items ∧ List.Forall₂ R items values := by
  rw [checkList]
  constructor
  · intro hok
    cases hitems : d.sequence? with
    | none =>
        rw [hitems] at hok
        exact nomatch hok
    | some items =>
        obtain rfl := h.sequence?_eq_some_iff.1 hitems
        exact ⟨items, rfl, (Checked.each_eq_ok_iff fun d hd => hcheck d (h.of_mem d hd)).1 hok⟩
  · rintro ⟨items, rfl, hvalues⟩
    exact (Checked.each_eq_ok_iff fun d hd => hcheck d (h.of_mem d hd)).2 hvalues

theorem DimensionField.check_eq_ok_iff (h : d.Plain) (f : DimensionField) :
    check d = .ok f ↔ d.IsField f := by
  constructor
  · intro hok
    match d with
    | .map entries =>
        obtain ⟨name, description, hname, hdescription, rfl⟩ := Checked.map₂_eq_ok_iff.1 hok
        exact ⟨((h.isPart_field? _).required_text_iff h).1 hname,
          ((h.isPart_field? _).optional_text_iff h).1 hdescription⟩
  · intro hf
    obtain ⟨entries, rfl⟩ := hf.name.exists_map
    exact Checked.map₂_eq_ok_iff.2 ⟨f.name, f.description,
      ((h.isPart_field? _).required_text_iff h).2 hf.name,
      ((h.isPart_field? _).optional_text_iff h).2 hf.description, rfl⟩

/-- A field is no text. -/
theorem Datum.IsField.asText?_eq_none {f : DimensionField} (hf : d.IsField f) :
    d.asText? = none := by
  obtain ⟨entries, rfl⟩ := hf.name.exists_map
  rfl

theorem FieldChoice.checkItem_eq_ok_iff (h : d.Plain) (f : DimensionField) :
    checkItem d = .ok f ↔ d.IsFieldItem f := by
  rw [checkItem, Datum.IsFieldItem]
  cases htext : d.asText? with
  | some name =>
      obtain rfl := h.asText?_eq_some_iff.1 htext
      constructor
      · intro hok
        obtain rfl := Except.ok.inj hok
        exact .inl ⟨rfl, rfl⟩
      · rintro (⟨hname, hdescription⟩ | hf)
        · obtain ⟨name', description⟩ := f
          cases hname
          cases hdescription
          rfl
        · exact nomatch htext.symm.trans hf.asText?_eq_none
  | none =>
      have hnot : ¬ (d = .text f.name ∧ f.description = "") := fun hd =>
        nomatch htext.symm.trans (h.asText?_eq_some_iff.2 hd.1)
      rw [or_iff_right hnot, ← DimensionField.check_eq_ok_iff h]
      cases DimensionField.check d <;> simp

theorem FieldChoice.check_list (items : List Datum) :
    check (.list items) = match Checked.each checkItem items with
      | .ok fields => .ok (listed fields)
      | .error n => .error (1 + n) :=
  rfl

theorem FieldChoice.check_list_eq_ok_iff {items : List Datum} {choice : FieldChoice} :
    check (.list items) = .ok choice ↔
      ∃ fields, Checked.each checkItem items = .ok fields ∧ choice = .listed fields := by
  rw [check_list]
  cases Checked.each checkItem items <;> simp [eq_comm]

theorem FieldChoice.check_eq_ok_iff (h : d.Plain) (choice : FieldChoice) :
    check d = .ok choice ↔ d.IsFieldChoice choice := by
  cases h with
  | scalar s =>
      cases s with
      | null =>
          constructor
          · intro hok
            obtain rfl := Except.ok.inj hok
            exact .usual
          · rintro ⟨⟩
            rfl
      | text set =>
          constructor
          · intro hok
            obtain rfl := Except.ok.inj hok
            exact .named set
          · rintro ⟨⟩
            rfl
      | _ => exact ⟨(nomatch ·), (nomatch ·)⟩
  | @list items hitems =>
      have heach : ∀ fields, Checked.each checkItem items = .ok fields ↔
          List.Forall₂ Datum.IsFieldItem items fields := fun fields =>
        Checked.each_eq_ok_iff fun d hd => checkItem_eq_ok_iff (hitems d hd)
      rw [check_list_eq_ok_iff]
      constructor
      · rintro ⟨fields, hfields, rfl⟩
        exact .listed ((heach fields).1 hfields)
      · rintro ⟨⟩
        exact ⟨_, (heach _).2 ‹_›, rfl⟩
  | _ => exact ⟨(nomatch ·), (nomatch ·)⟩

theorem DimensionTemplate.check_eq_ok_iff (h : d.Plain) (t : DimensionTemplate) :
    check d = .ok t ↔ d.IsDimension t := by
  have hchoice := (h.isPart_field? "fields").optional_eq_ok_iff h .usual t.fields
    fun v hv => FieldChoice.check_eq_ok_iff hv t.fields
  constructor
  · intro hok
    match d with
    | .map entries =>
        obtain ⟨_, fields, htexts, hfields, rfl⟩ := Checked.map₂_eq_ok_iff.1 hok
        obtain ⟨_, _, hnames, hlabels, rfl⟩ := Checked.map₂_eq_ok_iff.1 htexts
        obtain ⟨apiName, description, hapi, hdescription, rfl⟩ := Checked.map₂_eq_ok_iff.1 hnames
        obtain ⟨longName, category, hlong, hcategory, rfl⟩ := Checked.map₂_eq_ok_iff.1 hlabels
        exact ⟨((h.isPart_fieldOr? _ _).required_text_iff h).1 hapi,
          ((h.isPart_field? _).optional_text_iff h).1 hdescription,
          ((h.isPart_fieldOr? _ _).optional_text_iff h).1 hlong,
          ((h.isPart_field? _).optional_text_iff h).1 hcategory, hchoice.1 hfields⟩
  · intro ht
    obtain ⟨entries, rfl⟩ := ht.apiName.exists_map
    refine Checked.map₂_eq_ok_iff.2 ⟨((t.apiName, t.description), (t.longName, t.category)),
      t.fields, Checked.map₂_eq_ok_iff.2 ⟨_, _, ?_, ?_, rfl⟩, hchoice.2 ht.fields, rfl⟩
    · exact Checked.map₂_eq_ok_iff.2 ⟨_, _,
        ((h.isPart_fieldOr? _ _).required_text_iff h).2 ht.apiName,
        ((h.isPart_field? _).optional_text_iff h).2 ht.description, rfl⟩
    · exact Checked.map₂_eq_ok_iff.2 ⟨_, _,
        ((h.isPart_fieldOr? _ _).optional_text_iff h).2 ht.longName,
        ((h.isPart_field? _).optional_text_iff h).2 ht.category, rfl⟩

/-- The names of sets of fields are the keys of their documents. -/
theorem Datum.keys_of_isFieldSet {entries : List (Datum × Datum)}
    {sets : Keyed String (List DimensionField)} (h : List.Forall₂ IsFieldSet entries sets) :
    entries.map (·.1) = (Keyed.keys sets).map text := by
  induction h with
  | nil => rfl
  | cons hset _ ih => exact congrArg₂ List.cons hset.name ih

/-- The sets of fields of a plain document have different names. -/
theorem Datum.Plain.nodup_keys {entries : List (Datum × Datum)}
    {sets : Keyed String (List DimensionField)} (h : (Datum.map entries).Plain)
    (hsets : List.Forall₂ IsFieldSet entries sets) : (Keyed.keys sets).Nodup := by
  cases h with
  | map _ _ hdifferent =>
      have hpairs : (entries.map (·.1)).Pairwise fun k k' => (k == k') = false :=
        List.pairwise_map.2 hdifferent
      rw [keys_of_isFieldSet hsets, List.pairwise_map] at hpairs
      refine hpairs.imp fun hne heq => ?_
      rw [heq, text_beq_text_iff.2 rfl] at hne
      exact nomatch hne

namespace DimensionConfig

theorem checkFieldSet_eq_ok_iff {entry : Datum × Datum} (hkey : entry.1.Plain)
    (hvalue : entry.2.Plain) (set : String × List DimensionField) :
    checkFieldSet entry = .ok set ↔ Datum.IsFieldSet entry set := by
  have hfields := checkList_eq_ok_iff hvalue
    (fun d hd f => DimensionField.check_eq_ok_iff hd f) set.2
  rw [checkFieldSet, Checked.map₂_eq_ok_iff]
  constructor
  · rintro ⟨name, fields, hname, hset, rfl⟩
    exact ⟨hkey.checkText_eq_ok_iff.1 hname, hfields.1 hset⟩
  · intro hset
    exact ⟨set.1, set.2, hkey.checkText_eq_ok_iff.2 hset.name, hfields.2 hset.fields, rfl⟩

theorem checkFieldSets_eq_ok_iff (h : d.Plain) (sets : Keyed String (List DimensionField)) :
    checkFieldSets d = .ok sets ↔
      ∃ entries, d = .map entries ∧ List.Forall₂ Datum.IsFieldSet entries sets := by
  cases h with
  | @map entries hkeys hvalues hdifferent =>
      have hplain : (Datum.map entries).Plain := .map hkeys hvalues hdifferent
      have heach : ∀ sets, Checked.each checkFieldSet entries = .ok sets ↔
          List.Forall₂ Datum.IsFieldSet entries sets := fun sets =>
        Checked.each_eq_ok_iff fun e he => checkFieldSet_eq_ok_iff (hkeys e he) (hvalues e he)
      rw [checkFieldSets]
      constructor
      · intro hok
        obtain ⟨found, hfound, rfl⟩ : ∃ found, Checked.each checkFieldSet entries = .ok found ∧
            Keyed.ofList found = sets := by
          cases hfound : Checked.each checkFieldSet entries with
          | error n =>
              rw [hfound] at hok
              exact nomatch hok
          | ok found =>
              rw [hfound] at hok
              exact ⟨found, rfl, Except.ok.inj hok⟩
        have hsets := (heach found).1 hfound
        exact ⟨entries, rfl, by rwa [Keyed.ofList_of_nodup (hplain.nodup_keys hsets)]⟩
      · rintro ⟨_, ⟨⟩, hsets⟩
        rw [(heach sets).2 hsets]
        exact congrArg Except.ok (Keyed.ofList_of_nodup (hplain.nodup_keys hsets))
  | _ =>
      rw [checkFieldSets]
      · simp
      all_goals simp

/-- The parts of a map are checked, also if it is empty. -/
theorem check_map (entries : List (Datum × Datum)) :
    check (.map entries) = Checked.map₂ DimensionConfig.mk
      (Checked.optional checkFieldSets [] ((Datum.map entries).fieldOr? "fieldSets" "field_sets"))
      (Checked.optional (checkList DimensionTemplate.check) []
        ((Datum.map entries).field? "dimensions")) := by
  cases entries <;> rfl

theorem check_map_eq_ok_iff {entries : List (Datum × Datum)} (h : (Datum.map entries).Plain)
    (config : DimensionConfig) :
    check (.map entries) = .ok config ↔ (Datum.map entries).IsDimensionConfig config := by
  have hsets := (h.isPart_fieldOr? "fieldSets" "field_sets").optional_eq_ok_iff h []
    config.fieldSets
    (R := fun v sets => ∃ entries, v = .map entries ∧ List.Forall₂ Datum.IsFieldSet entries sets)
    fun v hv => checkFieldSets_eq_ok_iff hv config.fieldSets
  have hdimensions := (h.isPart_field? "dimensions").optional_eq_ok_iff h [] config.dimensions
    (R := fun v ts => ∃ items, v = .list items ∧ List.Forall₂ Datum.IsDimension items ts)
    fun v hv => checkList_eq_ok_iff hv (fun d hd t => DimensionTemplate.check_eq_ok_iff hd t)
      config.dimensions
  rw [check_map, Checked.map₂_eq_ok_iff]
  constructor
  · rintro ⟨fieldSets, dimensions, hs, hds, rfl⟩
    refine ⟨⟨entries, rfl⟩, (hsets.1 hs).imp_right ?_, (hdimensions.1 hds).imp_right ?_⟩
    · rintro ⟨_, hgives, entries, rfl, hall⟩
      exact ⟨entries, hgives, hall⟩
    · rintro ⟨_, hgives, items, rfl, hall⟩
      exact ⟨items, hgives, hall⟩
  · intro hconfig
    refine ⟨config.fieldSets, config.dimensions, hsets.2 (hconfig.fieldSets.imp_right ?_),
      hdimensions.2 (hconfig.dimensions.imp_right ?_), rfl⟩
    · rintro ⟨entries, hgives, hall⟩
      exact ⟨_, hgives, entries, rfl, hall⟩
    · rintro ⟨items, hgives, hall⟩
      exact ⟨_, hgives, items, rfl, hall⟩

/-- A document that is no map passes if it counts as absent. -/
theorem check_of_not_map (h : ∀ entries, d ≠ .map entries) :
    check d = if d.isEmpty then .ok ⟨[], []⟩ else .error 1 := by
  cases d with
  | map entries => exact absurd rfl (h entries)
  | _ => rfl

/-- A plain document passes the check if it counts as absent, or is a configuration. -/
theorem check_eq_ok_iff (h : d.Plain) (config : DimensionConfig) :
    check d = .ok config ↔ d.Falsy ∧ config = ⟨[], []⟩ ∨ d.IsDimensionConfig config := by
  by_cases hmap : ∃ entries, d = .map entries
  · obtain ⟨entries, rfl⟩ := hmap
    rw [check_map_eq_ok_iff h, or_iff_right_of_imp]
    rintro ⟨⟨⟩, rfl⟩
    exact (check_map_eq_ok_iff h _).1 rfl
  · have hnone : ¬ d.IsDimensionConfig config := fun hconfig => hmap hconfig.isMap
    rw [or_iff_left hnone, ← h.isEmpty_iff, check_of_not_map (not_exists.1 hmap)]
    split_ifs with hempty
    · simp [hempty, eq_comm]
    · simp [hempty]

end DimensionConfig

end Parts

/-! ### Further entries -/

/-- A field without further entries. -/
def DimensionField.trim (d : Datum) : Datum :=
  d.keepEntries ["name", "description"]

/-- A choice of fields without further entries. -/
def FieldChoice.trim (d : Datum) : Datum :=
  d.mapItems DimensionField.trim

/-- A dimension without further entries. -/
def DimensionTemplate.trim (d : Datum) : Datum :=
  (d.keepEntries ["apiName", "api_name", "description", "longName", "long_name", "category",
    "fields"]).mapEntry "fields" FieldChoice.trim

namespace DimensionConfig

/-- Sets of fields without further entries. -/
def trimFieldSets (d : Datum) : Datum :=
  d.mapValues (Datum.mapItems DimensionField.trim)

/-- A configuration without further entries, in all of its maps. -/
def trim (d : Datum) : Datum :=
  (((d.keepEntries ["fieldSets", "field_sets", "dimensions"]).mapEntry
    "fieldSets" trimFieldSets).mapEntry
    "field_sets" trimFieldSets).mapEntry
    "dimensions" (Datum.mapItems DimensionTemplate.trim)

end DimensionConfig

theorem DimensionField.check_trim (d : Datum) : check (trim d) = check d := by
  cases d with
  | map entries =>
      obtain ⟨entries', htrim⟩ : ∃ entries', trim (.map entries) = .map entries' := ⟨_, rfl⟩
      have hkept : ∀ key ∈ ["name", "description"],
          (Datum.map entries').field? key = (Datum.map entries).field? key := fun key hkey => by
        rw [← htrim, trim, Datum.field?_keepEntries (List.contains_iff_mem.2 hkey)]
      rw [htrim, check, check, hkept "name" (by simp), hkept "description" (by simp)]
  | _ => rfl

theorem FieldChoice.checkItem_trim (d : Datum) :
    checkItem (DimensionField.trim d) = checkItem d := by
  rw [checkItem, checkItem, DimensionField.check_trim, DimensionField.trim,
    Datum.asText?_keepEntries]

theorem FieldChoice.check_trim (d : Datum) : check (trim d) = check d := by
  cases d with
  | scalar s => rfl
  | list items | set items =>
      simp only [trim, Datum.mapItems, check, Datum.asText?, Datum.sequence?,
        Checked.each_map checkItem_trim]
  | _ => rfl

theorem DimensionTemplate.check_trim (d : Datum) : check (trim d) = check d := by
  cases d with
  | map entries =>
      obtain ⟨entries', htrim⟩ : ∃ entries', trim (.map entries) = .map entries' := ⟨_, rfl⟩
      have hkept : ∀ key ∈ ["apiName", "api_name", "description", "longName", "long_name",
          "category"], (Datum.map entries').field? key = (Datum.map entries).field? key := by
        intro key hkey
        rw [← htrim, trim, Datum.field?_mapEntry_of_ne, Datum.field?_keepEntries]
        · exact List.contains_iff_mem.2 (List.mem_append_left ["fields"] hkey)
        · rintro rfl
          simp at hkey
      have hfields : (Datum.map entries').field? "fields" =
          ((Datum.map entries).field? "fields").map FieldChoice.trim := by
        rw [← htrim, trim, Datum.field?_mapEntry_self, Datum.field?_keepEntries (by decide)]
      rw [htrim]
      simp only [check, Datum.fieldOr?, hfields, Checked.optional_map FieldChoice.check_trim,
        hkept "apiName" (by simp), hkept "api_name" (by simp), hkept "description" (by simp),
        hkept "longName" (by simp), hkept "long_name" (by simp), hkept "category" (by simp)]
  | _ => rfl

namespace DimensionConfig

theorem checkList_mapItems {α : Type} {check : Datum → Checked α} {change : Datum → Datum}
    (h : ∀ d, check (change d) = check d) (d : Datum) :
    checkList check (d.mapItems change) = checkList check d := by
  rw [checkList, checkList, Datum.sequence?_mapItems]
  cases d.sequence? with
  | none => rfl
  | some items => exact Checked.each_map h items

theorem checkFieldSets_trimFieldSets (d : Datum) :
    checkFieldSets (trimFieldSets d) = checkFieldSets d := by
  cases d with
  | map entries =>
      have hentry : ∀ entry : Datum × Datum,
          checkFieldSet (entry.1, entry.2.mapItems DimensionField.trim) = checkFieldSet entry :=
        fun entry => by
          rw [checkFieldSet, checkFieldSet, checkList_mapItems DimensionField.check_trim]
      exact congrArg (Except.map Keyed.ofList) (Checked.each_map hentry entries)
  | _ => rfl

/-- Further entries make no difference to the check. -/
theorem check_trim (d : Datum) : check (trim d) = check d := by
  cases d with
  | map entries =>
      obtain ⟨entries', htrim⟩ : ∃ entries', trim (.map entries) = .map entries' := ⟨_, rfl⟩
      have hsets : ∀ key ∈ ["fieldSets", "field_sets"], (Datum.map entries').field? key =
          ((Datum.map entries).field? key).map trimFieldSets := by
        intro key hkey
        rw [← htrim, trim]
        rcases List.mem_pair.1 hkey with rfl | rfl
        · rw [Datum.field?_mapEntry_of_ne (by decide), Datum.field?_mapEntry_of_ne (by decide),
            Datum.field?_mapEntry_self, Datum.field?_keepEntries (by decide)]
        · rw [Datum.field?_mapEntry_of_ne (by decide), Datum.field?_mapEntry_self,
            Datum.field?_mapEntry_of_ne (by decide), Datum.field?_keepEntries (by decide)]
      have hdimensions : (Datum.map entries').field? "dimensions" =
          ((Datum.map entries).field? "dimensions").map
            (Datum.mapItems DimensionTemplate.trim) := by
        rw [← htrim, trim, Datum.field?_mapEntry_self, Datum.field?_mapEntry_of_ne (by decide),
          Datum.field?_mapEntry_of_ne (by decide), Datum.field?_keepEntries (by decide)]
      rw [htrim, check_map, check_map, Datum.fieldOr?, Datum.fieldOr?, hsets "fieldSets" (by simp),
        hsets "field_sets" (by simp), ← Option.map_or, hdimensions,
        Checked.optional_map checkFieldSets_trimFieldSets,
        Checked.optional_map (checkList_mapItems DimensionTemplate.check_trim)]
  | _ => rfl

/-! ### The check of plain documents -/

/-- A plain document describes a configuration exactly if it counts as absent, and then it describes
the empty one, or is a configuration.  Any other plain document is refused with the number of its
faults.  Documents that differ only in further entries describe the same. -/
theorem dimensionConfig_iff_grammar {d : Datum} (h : d.Plain) :
    (∀ config, d.dimensionConfig = .ok config ↔
      d.Falsy ∧ config = ⟨[], []⟩ ∨ d.IsDimensionConfig config) ∧
    ((¬ d.Falsy ∧ ∀ config, ¬ d.IsDimensionConfig config) →
      ∃ count, d.dimensionConfig = .error (.dimensions count)) ∧
    ∀ d', trim d' = trim d → d'.dimensionConfig = d.dimensionConfig := by
  refine ⟨fun config => ?_, fun ⟨hsolid, hnone⟩ => ?_, fun d' htrim => ?_⟩
  · rw [← check_eq_ok_iff h, Datum.dimensionConfig]
    cases check d <;> simp [Except.mapError]
  · rw [Datum.dimensionConfig]
    cases hcheck : check d with
    | error count => exact ⟨count, rfl⟩
    | ok config =>
        rcases (check_eq_ok_iff h config).1 hcheck with ⟨hfalsy, -⟩ | hconfig
        · exact absurd hfalsy hsolid
        · exact absurd hconfig (hnone config)
  · rw [Datum.dimensionConfig, ← check_trim d', htrim, check_trim, Datum.dimensionConfig]

/-- A configuration with one dimension and an entry that no check looks at. -/
def pageDocument : Datum :=
  .record [("dimensions", .list [.record [("api_name", .text "page"), ("color", .int 3),
    ("fields", .list [.text "id", .record [("name", .text "desc")]])]])]

theorem plain_pageDocument : pageDocument.Plain := by
  refine Datum.plain_record (by decide) (List.forall_mem_singleton.2 (.list ?_))
  refine List.forall_mem_singleton.2 (Datum.plain_record (by decide) ?_)
  simp only [List.forall_mem_cons, List.not_mem_nil, IsEmpty.forall_iff, implies_true, and_true]
  refine ⟨.scalar _, .scalar _, .list ?_⟩
  simp only [List.forall_mem_cons, List.not_mem_nil, IsEmpty.forall_iff, implies_true, and_true]
  exact ⟨.scalar _, Datum.plain_record (by decide) (List.forall_mem_singleton.2 (.scalar _))⟩

theorem dimensionConfig_iff_grammar_page : pageDocument.Plain ∧
    pageDocument.IsDimensionConfig
      ⟨[], [⟨"page", "", "", "General", .listed [⟨"id", ""⟩, ⟨"desc", ""⟩]⟩]⟩ := by
  refine ⟨plain_pageDocument, ?_⟩
  rcases ((dimensionConfig_iff_grammar plain_pageDocument).1 _).1 rfl with ⟨hfalsy, -⟩ | hconfig
  · exact nomatch hfalsy
  · exact hconfig

end DimensionConfig

end MetricQuery
