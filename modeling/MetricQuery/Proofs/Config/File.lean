import Mathlib.Control.Monad.Basic
import Mathlib.Data.Bool.AllAny
import MetricQuery.Catalog.Basic
import MetricQuery.Proofs.Catalog.Dimensions
import MetricQuery.Proofs.Document.Entry

/-!
# Faults of configuration files

Why a file holds no configuration is reported as a load error: that there is no such file, that its
text is malformed, or that its data do not describe what they should.  Any other fault of the reader
of documents is reported as it is instead.  It ends every load from the file, and nothing else ends
one without a load error or a repeated dimension.  A reader that reads a plain scalar by its form
ends so at an entry whose value is a number or an instant that cannot be, and at no other entry
(`ConfigFile.stops_iff`).

## Main definitions

* `ConfigFault.IsLoadError`, `CatalogFault.IsLoadError` : the faults that are reported as such.
* `DocumentReader.StopsAt` : a text whose reading ends at a fault other than that it is malformed.
* `DocumentReader.ReadsPlain` : the entries that a reader reads by the forms of their values.
* `ConfigFile.loadDimensions` : the load of the dimensions in a file.

## Main results

* `Document.readsPlain_ofDocument` : a reader that reads plain scalars by their forms.
* `Catalog.loadDimensions_eq` : the dimensions of a catalog are those that the load leads to.
* `ConfigFile.bind_read_iff` : a computation with the data of a file, which has load errors only.
* `ConfigFile.defect_of_templates_eq_error`, `ConfigFile.defect_of_loadDimensions_eq_error` : the
  scalars that are to blame for loads without a load error.
* `ConfigFile.stops_iff` : the loads that end without a load error.
-/

namespace MetricQuery

/-! ### Load errors -/

/-- The faults that are reported as load errors: all but those of single scalars. -/
def ConfigFault.IsLoadError : ConfigFault → Prop
  | scalar _ => False
  | _ => True

/-- The faults of a load of dimensions that are reported as load errors or as a repeated name. -/
def CatalogFault.IsLoadError : CatalogFault → Prop
  | config fault => fault.IsLoadError
  | dimensionRepeated _ => True
  | _ => False

/-- A check whose faults are load errors ends in load errors only. -/
theorem ConfigFault.isLoadError_of_mapError {ε α : Type} {x : Except ε α}
    {wrap : ε → ConfigFault} {fault : ConfigFault} (h : x.mapError wrap = .error fault)
    (hwrap : ∀ e, (wrap e).IsLoadError) : fault.IsLoadError := by
  cases x with
  | ok a => exact nomatch h
  | error e =>
      obtain rfl := Except.error.inj h
      exact hwrap e

/-! ### Readers of documents -/

/-- A text stands for no data because of a fault other than that it is malformed. -/
def DocumentReader.StopsAt (reader : DocumentReader) (text : String) (fault : DocumentFault) :
    Prop :=
  reader text = .error fault ∧ fault ≠ .malformed

/-- An entry on a line of its own, with a value without quotes, stands for a mapping of its key to
the value that the form of the scalar shows. -/
def DocumentReader.ReadsPlain (reader : DocumentReader) : Prop :=
  ∀ key s, Document.IsPlainKey key → Document.IsPlainLine s.toList →
    reader (key ++ ": " ++ s ++ "\n") =
      ((Document.Tag.ofPlain s).read s).map fun d => .map [(.text key, d)]

theorem Document.readsPlain_ofDocument : DocumentReader.ReadsPlain Datum.ofDocument :=
  fun _ _ => Document.ofDocument_entry

/-- The entries at which such a reader stops are those with an impossible value. -/
theorem DocumentReader.ReadsPlain.exists_stopsAt_iff {reader : DocumentReader}
    (hreader : reader.ReadsPlain) {key s : String} (hkey : Document.IsPlainKey key)
    (hs : Document.IsPlainLine s.toList) :
    (∃ fault, reader.StopsAt (key ++ ": " ++ s ++ "\n") fault) ↔ Document.IsImpossible s := by
  rw [← Document.exists_fault_read_ofPlain_iff hs.getLast?_ne]
  unfold DocumentReader.StopsAt
  rw [hreader key s hkey hs]
  cases (Document.Tag.ofPlain s).read s with
  | ok d => exact iff_of_false (fun ⟨_, h, _⟩ => nomatch h) fun ⟨_, h, _⟩ => nomatch h
  | error fault =>
      constructor
      · rintro ⟨f, h, hne⟩
        exact ⟨fault, rfl, fun heq => hne (Except.error.inj h ▸ heq)⟩
      · rintro ⟨f, h, hne⟩
        exact ⟨fault, rfl, fun heq => hne (Except.error.inj h ▸ heq)⟩

theorem DimensionConfig.Refuses.isLoadError {config : DimensionConfig}
    {before : List DimensionTemplate} {t : DimensionTemplate} {fault : CatalogFault}
    (h : config.Refuses before t fault) : fault.IsLoadError := by
  cases h with
  | repeated => trivial
  | unknownSet => trivial

/-! ### Loads from files -/

/-- The dimensions that a file describes, with the stores and providers that they are bound to. -/
def ConfigFile.loadDimensions (file : ConfigFile) (reader : DocumentReader) (rows : Rows) :
    DimensionLoad :=
  match file.dimensions reader with
  | .error fault => ⟨rows, [], .error (.config fault)⟩
  | .ok config => config.load rows

/-- A catalog registers the dimensions that a file describes. -/
theorem Catalog.loadDimensions_eq (reader : DocumentReader) (file : ConfigFile) :
    Catalog.loadDimensions reader file =
      match (file.loadDimensions reader .empty).outcome with
      | .error fault => ((file.loadDimensions reader .empty).notices, .error fault)
      | .ok ds =>
        match Glossary.empty.registerAll ds with
        | (_, some name) =>
          ((file.loadDimensions reader .empty).notices ++ [.dimensionTaken name],
            .error (.dimensionTaken name))
        | (glossary, none) =>
          ((file.loadDimensions reader .empty).notices,
            .ok (glossary, (file.loadDimensions reader .empty).rows)) := by
  rw [Catalog.loadDimensions, ConfigFile.loadDimensions]
  cases file.dimensions reader <;> rfl

namespace ConfigFile

section Loads

variable {reader : DocumentReader} {path text : String} {α : Type}

theorem read_of_ok {d : Datum} (h : reader text = .ok d) :
    read ⟨path, .content text⟩ reader = .ok d := by
  rw [read]
  dsimp only
  rw [h]

theorem read_of_malformed (h : reader text = .error .malformed) :
    read ⟨path, .content text⟩ reader = .error (.malformed path) := by
  rw [read]
  dsimp only
  rw [h]

theorem read_of_stopsAt {fault : DocumentFault} (h : reader.StopsAt text fault) :
    read ⟨path, .content text⟩ reader = .error (.scalar fault) := by
  rw [read]
  dsimp only
  rw [h.1]
  cases fault with
  | malformed => exact absurd rfl h.2
  | _ => rfl

/-- What is done with the data of a file and ends in load errors only ends without one exactly at
the fault of a scalar. -/
theorem bind_read_iff {next : Datum → Except ConfigFault α}
    (hnext : ∀ d fault, next d = .error fault → fault.IsLoadError) (fault : ConfigFault) :
    (read ⟨path, .content text⟩ reader >>= next) = .error fault ∧ ¬ fault.IsLoadError ↔
      ∃ f, fault = .scalar f ∧ reader.StopsAt text f := by
  constructor
  · rintro ⟨h, hfault⟩
    cases hdata : reader text with
    | ok d =>
        rw [read_of_ok hdata] at h
        exact absurd (hnext d fault h) hfault
    | error f =>
        by_cases hf : f = .malformed
        · rw [hf] at hdata
          rw [read_of_malformed hdata] at h
          obtain rfl := Except.error.inj h
          exact absurd trivial hfault
        · rw [read_of_stopsAt ⟨hdata, hf⟩] at h
          exact ⟨f, (Except.error.inj h).symm, hdata, hf⟩
  · rintro ⟨f, rfl, hstops⟩
    rw [read_of_stopsAt hstops]
    exact ⟨rfl, id⟩

theorem templates_stops_iff (fault : ConfigFault) :
    templates ⟨path, .content text⟩ reader = .error fault ∧ ¬ fault.IsLoadError ↔
      ∃ f, fault = .scalar f ∧ reader.StopsAt text f := by
  refine bind_read_iff (fun d fault h => ?_) fault
  rw [Datum.templates] at h
  exact ConfigFault.isLoadError_of_mapError h fun _ => trivial

theorem dimensions_stops_iff (fault : ConfigFault) :
    dimensions ⟨path, .content text⟩ reader = .error fault ∧ ¬ fault.IsLoadError ↔
      ∃ f, fault = .scalar f ∧ reader.StopsAt text f := by
  refine bind_read_iff (fun d fault h => ?_) fault
  rw [Datum.dimensionConfig] at h
  exact ConfigFault.isLoadError_of_mapError h fun _ => trivial

theorem loadDimensions_stops_iff (rows : Rows) (fault : CatalogFault) :
    (loadDimensions ⟨path, .content text⟩ reader rows).outcome = .error fault ∧
        ¬ fault.IsLoadError ↔
      ∃ f, fault = .config (.scalar f) ∧ reader.StopsAt text f := by
  rw [loadDimensions]
  cases hfile : dimensions ⟨path, .content text⟩ reader with
  | ok config =>
      constructor
      · rintro ⟨h, hfault⟩
        obtain ⟨_, _, _, -, -, hrefuses, -⟩ := DimensionConfig.exists_of_load_eq_error h
        exact absurd hrefuses.isLoadError hfault
      · rintro ⟨f, -, hstops⟩
        have hscalar : dimensions ⟨path, .content text⟩ reader = .error (.scalar f) :=
          ((dimensions_stops_iff _).2 ⟨f, rfl, hstops⟩).1
        exact nomatch hfile.symm.trans hscalar
  | error reason =>
      constructor
      · rintro ⟨h, hfault⟩
        obtain rfl := Except.error.inj h
        obtain ⟨f, rfl, hstops⟩ := (dimensions_stops_iff reason).1 ⟨hfile, hfault⟩
        exact ⟨f, rfl, hstops⟩
      · rintro ⟨f, rfl, hstops⟩
        have hscalar : dimensions ⟨path, .content text⟩ reader = .error (.scalar f) :=
          ((dimensions_stops_iff _).2 ⟨f, rfl, hstops⟩).1
        obtain rfl := Except.error.inj (hfile.symm.trans hscalar)
        exact ⟨rfl, id⟩

/-- With the reader of documents of the library, a scalar of the text is to blame for a load that
ends without a load error. -/
theorem defect_of_templates_eq_error {fault : ConfigFault}
    (h : templates ⟨path, .content text⟩ Datum.ofDocument = .error fault)
    (hfault : ¬ fault.IsLoadError) : ∃ f, fault = .scalar f ∧ Document.Defect text f := by
  obtain ⟨f, rfl, hread, hf⟩ := (templates_stops_iff fault).1 ⟨h, hfault⟩
  exact ⟨f, rfl, Document.defect_of_ofDocument_eq_error hread hf⟩

theorem defect_of_loadDimensions_eq_error {rows : Rows} {fault : CatalogFault}
    (h : (loadDimensions ⟨path, .content text⟩ Datum.ofDocument rows).outcome = .error fault)
    (hfault : ¬ fault.IsLoadError) : ∃ f, fault = .config (.scalar f) ∧ Document.Defect text f := by
  obtain ⟨f, rfl, hread, hf⟩ := (loadDimensions_stops_iff rows fault).1 ⟨h, hfault⟩
  exact ⟨f, rfl, Document.defect_of_ofDocument_eq_error hread hf⟩

end Loads

/-- **Loads from a readable file.**  A load of templates, and one of dimensions with any stores and
providers, ends without a load error exactly if the reader of documents stops at the text with a
fault other than that it is malformed; that fault is then reported as it is.  If the text is an
entry on a line of its own, the loads end so exactly if the value is an integer of too many digits
or of none, a number of too many parts, or an instant that does not exist. -/
theorem stops_iff {reader : DocumentReader} (hreader : reader.ReadsPlain) (path : String)
    (rows : Rows) :
    (∀ text fault, templates ⟨path, .content text⟩ reader = .error fault ∧ ¬ fault.IsLoadError ↔
      ∃ f, fault = .scalar f ∧ reader.StopsAt text f) ∧
    (∀ text fault, (loadDimensions ⟨path, .content text⟩ reader rows).outcome = .error fault ∧
        ¬ fault.IsLoadError ↔
      ∃ f, fault = .config (.scalar f) ∧ reader.StopsAt text f) ∧
    ∀ key s, Document.IsPlainKey key → Document.IsPlainLine s.toList →
      ((∃ fault, templates ⟨path, .content (key ++ ": " ++ s ++ "\n")⟩ reader = .error fault ∧
        ¬ fault.IsLoadError) ↔ Document.IsImpossible s) ∧
      ((∃ fault, (loadDimensions ⟨path, .content (key ++ ": " ++ s ++ "\n")⟩ reader rows).outcome =
        .error fault ∧ ¬ fault.IsLoadError) ↔ Document.IsImpossible s) := by
  refine ⟨fun _ => templates_stops_iff, fun _ => loadDimensions_stops_iff rows,
    fun key s hkey hs => ?_⟩
  rw [← hreader.exists_stopsAt_iff hkey hs]
  simp only [templates_stops_iff, loadDimensions_stops_iff]
  constructor
  · exact ⟨fun ⟨_, f, _, h⟩ => ⟨f, h⟩, fun ⟨f, h⟩ => ⟨_, f, rfl, h⟩⟩
  · exact ⟨fun ⟨_, f, _, h⟩ => ⟨f, h⟩, fun ⟨f, h⟩ => ⟨_, f, rfl, h⟩⟩

/-- An entry whose value is a date in a month that does not exist ends a load of templates, and one
whose value is a date that exists does not. -/
theorem stops_iff_months :
    let stops (value : String) : Prop := ∃ fault,
      templates ⟨"config.yml", .content ("makers" ++ ": " ++ value ++ "\n")⟩ Datum.ofDocument =
        .error fault ∧ ¬ fault.IsLoadError
    stops "2024-13-45" ∧ ¬ stops "2024-12-13" := by
  intro stops
  have hkey : Document.IsPlainKey "makers" :=
    ⟨List.all_eq_true.1 (by decide), by decide, by decide, by decide +kernel⟩
  have himpossible : Document.IsPlainLine "2024-13-45".toList :=
    ⟨List.all_iff_forall_prop.1 (by decide), ⟨'2', _, rfl, .inl (by decide)⟩, by decide⟩
  have hpossible : Document.IsPlainLine "2024-12-13".toList :=
    ⟨List.all_iff_forall_prop.1 (by decide), ⟨'2', _, rfl, .inl (by decide)⟩, by decide⟩
  have hmonth : Document.IsImpossible "2024-13-45" := by
    refine .inr (.inr ⟨by decide +kernel, fun stamp hstamp hexists => ?_⟩)
    have hread : Document.readStamp? "2024-13-45".toList =
        some ⟨2024, ['1', '3'], ['4', '5'], none, none⟩ := rfl
    obtain rfl := Option.some.inj (hread.symm.trans hstamp)
    exact absurd hexists.month (by decide)
  have htag : Document.Tag.ofPlain "2024-12-13" = .timestamp := by decide +kernel
  have hdate : ¬ Document.IsImpossible "2024-12-13" := by
    rintro (⟨hint, -⟩ | ⟨hfloat, -⟩ | ⟨-, hnone⟩)
    · exact nomatch htag.symm.trans hint
    · exact nomatch htag.symm.trans hfloat
    · refine hnone ⟨2024, ['1', '2'], ['1', '3'], none, none⟩ rfl ?_
      exact ⟨by decide, by decide, by decide, nofun⟩
  obtain ⟨-, -, hentry⟩ := stops_iff Document.readsPlain_ofDocument "config.yml" .empty
  exact ⟨(hentry "makers" "2024-13-45" hkey himpossible).1.2 hmonth,
    fun h => hdate ((hentry "makers" "2024-12-13" hkey hpossible).1.1 h)⟩

/-- A date in a month that does not exist ends both loads without a load error. -/
theorem stops_impossibleMonth :
    let file : ConfigFile := ⟨"config.yml", .content "makers: 2024-13-45\n"⟩
    file.templates Datum.ofDocument = .error (.scalar (.calendar .month)) ∧
    (file.loadDimensions Datum.ofDocument .empty).outcome =
      .error (.config (.scalar (.calendar .month))) ∧
    ¬ ConfigFault.IsLoadError (.scalar (.calendar .month)) ∧
    ¬ CatalogFault.IsLoadError (.config (.scalar (.calendar .month))) := by
  have hdimensions : dimensions ⟨"config.yml", .content "makers: 2024-13-45\n"⟩ Datum.ofDocument =
      .error (.scalar (.calendar .month)) := by
    decide +kernel
  refine ⟨by decide +kernel, ?_, id, id⟩
  rw [loadDimensions, hdimensions]

end ConfigFile

end MetricQuery
