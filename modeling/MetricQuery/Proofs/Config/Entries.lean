import Mathlib.Data.List.Forall2
import MetricQuery.Config.Check

/-!
# Plain documents and their entries

Configuration documents are mostly plain: they are built from single values, lists and maps whose
keys are different from each other.  In a plain document a text is a text and a list is a list, and
an entry of a map is found exactly if it is there (`Datum.Plain.field?_eq_some_iff`).  A check of a
part that must be there, or of one that has a default, can then be read off the entries.

A document may hold further entries, which no check looks at.  `Datum.keepEntries` leaves them out.

## Main definitions

* `Datum.Plain` : plain documents.
* `Datum.Falsy` : the values that count as an absent document.
* `Datum.HasEntry`, `Datum.Lacks` : a key of a map with its value, and a key that is not there.
* `Datum.Gives`, `Datum.Omits` : the value under the first of several keys, and none of the keys.
* `Datum.IsPart`, `Datum.TextOr` : what is found under several keys, and a text with a default.
* `Datum.keepEntries`, `Datum.mapEntry`, `Datum.mapItems` : changes of entries and items.

## Main results

* `Datum.Plain.field?_eq_some_iff` : look-up in plain documents.
* `Datum.IsPart.required_eq_ok_iff`, `Datum.IsPart.optional_eq_ok_iff` : checks of single parts.
* `Datum.Plain.isEmpty_iff` : the empty ones among plain documents.
* `Checked.map₂_eq_ok_iff`, `Checked.each_eq_ok_iff` : checks of several parts.
* `Datum.field?_keepEntries`, `Datum.field?_mapEntry` : look-up after a change.
-/

namespace MetricQuery

theorem Scalar.text_beq_text_iff {s t : String} :
    (Scalar.text s == Scalar.text t) = true ↔ s = t := by
  rw [Scalar.beq_iff, Scalar.denotation, Scalar.denotation, Denotation.text.injEq]

namespace Datum

/-! ### Plain documents -/

/-- Plain documents: single values, lists, and maps with different keys. -/
inductive Plain : Datum → Prop
  | scalar (s : Scalar) : Plain (.scalar s)
  | date (d : Date) : Plain (.date d)
  | instant (t : Instant) : Plain (.instant t)
  | list {items : List Datum} (hitems : ∀ d ∈ items, Plain d) : Plain (.list items)
  | map {entries : List (Datum × Datum)} (hkeys : ∀ e ∈ entries, Plain e.1)
      (hvalues : ∀ e ∈ entries, Plain e.2)
      (hdifferent : entries.Pairwise fun e f => (e.1 == f.1) = false) : Plain (.map entries)

/-- The values that count as an absent document: the absent value, `false`, the zeros, the empty
text, the empty list and the empty map. -/
inductive Falsy : Datum → Prop
  | null : Falsy .null
  | no : Falsy (.bool false)
  | zero : Falsy (.int 0)
  | floatZero {x : Binary64} (h : x.value? = some 0) : Falsy (.float x)
  | emptyText : Falsy (.text "")
  | emptyList : Falsy (.list [])
  | emptyMap : Falsy (.map [])

theorem text_beq_text_iff {s t : String} : (text s == text t) = true ↔ s = t :=
  Scalar.text_beq_text_iff

theorem isEmpty_scalar_iff {s : Scalar} : (Datum.scalar s).isEmpty = true ↔ (scalar s).Falsy := by
  simp only [isEmpty, Bool.or_eq_true, Scalar.beq_iff]
  cases s with
  | null => exact ⟨fun _ => .null, fun _ => .inl (.inl rfl)⟩
  | bool b =>
      cases b with
      | false => exact ⟨fun _ => .no, fun _ => .inl (.inr rfl)⟩
      | true =>
          constructor
          · simp [Scalar.denotation]
          · exact fun h => nomatch h
  | int n =>
      constructor
      · intro h
        have hn : n = 0 := by simpa [Scalar.denotation] using h
        rw [hn]
        exact .zero
      · rintro ⟨⟩
        exact .inl (.inr rfl)
  | float x =>
      constructor
      · intro h
        cases x with
        | finite negative mantissa exponent =>
            refine .floatZero ?_
            simpa [Scalar.denotation, Binary64.value?] using h
        | _ => simp [Scalar.denotation] at h
      · rintro (_ | _ | _ | h)
        cases x with
        | finite negative mantissa exponent =>
            refine .inl (.inr ?_)
            simp [Scalar.denotation, h]
        | _ => exact nomatch h
  | text s =>
      constructor
      · intro h
        have hs : s = "" := by simpa [Scalar.denotation] using h
        rw [hs]
        exact .emptyText
      · rintro ⟨⟩
        exact .inr rfl

/-- The empty ones among plain documents are those that count as absent. -/
theorem Plain.isEmpty_iff {d : Datum} (h : d.Plain) : d.isEmpty = true ↔ d.Falsy := by
  cases h with
  | scalar s => exact isEmpty_scalar_iff
  | date _ | instant _ => exact ⟨(nomatch ·), (nomatch ·)⟩
  | @list items _ =>
      cases items with
      | nil => exact ⟨fun _ => .emptyList, fun _ => rfl⟩
      | cons d items => exact ⟨(nomatch ·), (nomatch ·)⟩
  | @map entries _ _ _ =>
      cases entries with
      | nil => exact ⟨fun _ => .emptyMap, fun _ => rfl⟩
      | cons e entries => exact ⟨(nomatch ·), (nomatch ·)⟩

theorem text?_eq_some_iff {d : Datum} {s : String} : d.text? = some s ↔ d = .text s := by
  constructor
  · intro h
    match d with
    | .scalar (.text s') => rw [Option.some.inj h]
  · rintro rfl
    rfl

/-- In a plain document only a text is read as one. -/
theorem Plain.asText?_eq_some_iff {d : Datum} (h : d.Plain) {s : String} :
    d.asText? = some s ↔ d = .text s := by
  rw [← text?_eq_some_iff]
  cases h with
  | scalar s => cases s <;> rfl
  | _ => rfl

theorem Plain.checkText_eq_ok_iff {d : Datum} (h : d.Plain) {s : String} :
    d.checkText = .ok s ↔ d = .text s := by
  rw [← h.asText?_eq_some_iff, checkText]
  cases d.asText? <;> simp

/-- In a plain document only a list is read as one. -/
theorem Plain.sequence?_eq_some_iff {d : Datum} (h : d.Plain) {items : List Datum} :
    d.sequence? = some items ↔ d = .list items := by
  cases h <;> simp [sequence?]

theorem Plain.of_mem {items : List Datum} (h : (Datum.list items).Plain) :
    ∀ d ∈ items, d.Plain := by
  cases h with
  | list hitems => exact hitems

/-- A map whose keys are different texts is plain if its values are. -/
theorem plain_record {entries : List (String × Datum)} (hkeys : (entries.map (·.1)).Nodup)
    (hvalues : ∀ e ∈ entries, e.2.Plain) : (record entries).Plain := by
  refine .map ?_ ?_ (List.pairwise_map.2 ((List.pairwise_map.1 hkeys).imp fun hne => ?_))
  · rintro _ hmem
    obtain ⟨e, -, rfl⟩ := List.mem_map.1 hmem
    exact .scalar _
  · rintro _ hmem
    obtain ⟨e, he, rfl⟩ := List.mem_map.1 hmem
    exact hvalues e he
  · rw [Bool.eq_false_iff]
    exact fun heq => hne (text_beq_text_iff.1 heq)

/-! ### Entries -/

/-- A document is a map and has a value under a key. -/
def HasEntry (d : Datum) (key : String) (value : Datum) : Prop :=
  ∃ entries, d = .map entries ∧ (.text key, value) ∈ entries

/-- A document has nothing under a key. -/
def Lacks (d : Datum) (key : String) : Prop :=
  ∀ value, ¬ d.HasEntry key value

/-- A document has a value under a key, and nothing under the keys in front of it. -/
def Gives (d : Datum) : List String → Datum → Prop
  | [], _ => False
  | key :: keys, value => d.HasEntry key value ∨ d.Lacks key ∧ d.Gives keys value

/-- A document has nothing under any of several keys. -/
def Omits (d : Datum) (keys : List String) : Prop :=
  ∀ key ∈ keys, d.Lacks key

section Entries

variable {d value : Datum} {key : String}

theorem field?_eq_none_iff : d.field? key = none ↔ d.Lacks key := by
  cases d with
  | map entries =>
      rw [field?, Option.map_eq_none_iff, List.find?_eq_none]
      constructor
      · rintro h value ⟨_, ⟨⟩, hmem⟩
        exact h _ hmem (beq_self_eq_true (some key))
      · rintro h ⟨k, value⟩ hmem hkey
        rw [beq_iff_eq, text?_eq_some_iff] at hkey
        exact h value ⟨entries, rfl, hkey ▸ hmem⟩
  | _ => simp [field?, Lacks, HasEntry]

/-- In a plain document a value is found under a key exactly if it stands there. -/
theorem Plain.field?_eq_some_iff (h : d.Plain) :
    d.field? key = some value ↔ d.HasEntry key value := by
  cases h with
  | @map entries hkeys hvalues hdifferent =>
      clear hkeys hvalues
      constructor
      · intro h
        obtain ⟨⟨k, v⟩, hfind, rfl⟩ := Option.map_eq_some_iff.1 h
        have hkey : k.text? = some key := by simpa using List.find?_some hfind
        obtain rfl := text?_eq_some_iff.1 hkey
        exact ⟨entries, rfl, List.mem_of_find?_eq_some hfind⟩
      · rintro ⟨_, ⟨⟩, hmem⟩
        induction hdifferent with
        | nil => exact absurd hmem List.not_mem_nil
        | @cons e entries hfirst _ ih =>
            rw [field?, List.find?_cons]
            rcases List.mem_cons.1 hmem with rfl | hrest
            · have htext : ((Datum.text key).text? == some key) = true := beq_self_eq_true _
              simp only [htext]
              rfl
            · have hother : (e.1.text? == some key) = false := by
                refine beq_eq_false_iff_ne.2 fun hkey => ?_
                have hbeq := hfirst _ hrest
                rw [text?_eq_some_iff.1 hkey, text_beq_text_iff.2 rfl] at hbeq
                exact nomatch hbeq
              simp only [hother]
              exact ih hrest
  | _ => simp [field?, HasEntry]

theorem Gives.exists_map {keys : List String} (h : d.Gives keys value) :
    ∃ entries, d = .map entries := by
  induction keys with
  | nil => exact h.elim
  | cons key keys ih =>
      obtain ⟨entries, hmap, -⟩ | ⟨-, hrest⟩ := h
      · exact ⟨entries, hmap⟩
      · exact ih hrest

/-- What stands in a plain map is plain. -/
theorem Plain.of_hasEntry (h : d.Plain) (hentry : d.HasEntry key value) : value.Plain := by
  obtain ⟨entries, rfl, hmem⟩ := hentry
  cases h with
  | map _ hvalues _ => exact hvalues _ hmem

theorem Plain.of_gives {keys : List String} (h : d.Plain) (hgives : d.Gives keys value) :
    value.Plain := by
  induction keys with
  | nil => exact hgives.elim
  | cons key keys ih =>
      obtain hentry | ⟨-, hrest⟩ := hgives
      · exact h.of_hasEntry hentry
      · exact ih hrest

/-- What is found in a document is what it gives under several keys. -/
structure IsPart (d : Datum) (keys : List String) (part : Option Datum) : Prop where
  some_iff : ∀ value, part = some value ↔ d.Gives keys value
  none_iff : part = none ↔ d.Omits keys

theorem Plain.isPart_field? (h : d.Plain) (key : String) : d.IsPart [key] (d.field? key) := by
  refine ⟨fun value => ?_, ?_⟩
  · rw [h.field?_eq_some_iff]
    simp [Gives]
  · rw [field?_eq_none_iff]
    simp [Omits]

theorem Plain.isPart_fieldOr? (h : d.Plain) (first second : String) :
    d.IsPart [first, second] (d.fieldOr? first second) := by
  refine ⟨fun value => ?_, ?_⟩
  · rw [fieldOr?, Option.or_eq_some_iff, h.field?_eq_some_iff, h.field?_eq_some_iff,
      field?_eq_none_iff]
    simp [Gives]
  · rw [fieldOr?, Option.or_eq_none_iff, field?_eq_none_iff, field?_eq_none_iff]
    simp [Omits]

/-- A document gives a text under several keys, or none of the keys and then the text is the
default. -/
def TextOr (d : Datum) (keys : List String) (default s : String) : Prop :=
  d.Omits keys ∧ s = default ∨ d.Gives keys (.text s)

section Parts

variable {keys : List String} {part : Option Datum} {α : Type} {check : Datum → Checked α}

/-- A part with a default passes its check if it is absent or gives a value. -/
theorem IsPart.optional_eq_ok_iff (hpart : d.IsPart keys part) (h : d.Plain) (default a : α)
    {R : Datum → α → Prop} (hcheck : ∀ v, v.Plain → (check v = .ok a ↔ R v a)) :
    Checked.optional check default part = .ok a ↔
      d.Omits keys ∧ a = default ∨ ∃ v, d.Gives keys v ∧ R v a := by
  cases part with
  | none =>
      have homits : d.Omits keys := hpart.none_iff.1 rfl
      have hgives : ∀ v, ¬ d.Gives keys v := fun v hv => nomatch (hpart.some_iff v).2 hv
      simp [Checked.optional, homits, hgives, eq_comm]
  | some v =>
      have homits : ¬ d.Omits keys := fun h => nomatch hpart.none_iff.2 h
      have hgives : d.Gives keys v := (hpart.some_iff v).1 rfl
      rw [Checked.optional, hcheck v (h.of_gives hgives)]
      constructor
      · exact fun hv => .inr ⟨v, hgives, hv⟩
      · rintro (⟨h, -⟩ | ⟨w, hw, hR⟩)
        · exact absurd h homits
        · rw [Option.some.inj ((hpart.some_iff w).2 hw)]
          exact hR

theorem IsPart.optional_text_iff (hpart : d.IsPart keys part) (h : d.Plain) {default s : String} :
    Checked.optional checkText default part = .ok s ↔ d.TextOr keys default s := by
  rw [hpart.optional_eq_ok_iff h default s (R := fun v s => v = .text s)
    fun v hv => hv.checkText_eq_ok_iff]
  simp [TextOr]

/-- A part that must be there passes its check if it gives a value that does. -/
theorem IsPart.required_eq_ok_iff (hpart : d.IsPart keys part) (h : d.Plain) (a : α)
    {R : Datum → α → Prop} (hcheck : ∀ v, v.Plain → (check v = .ok a ↔ R v a)) :
    Checked.required check part = .ok a ↔ ∃ v, d.Gives keys v ∧ R v a := by
  simp only [← hpart.some_iff]
  cases part with
  | none => simp [Checked.required]
  | some v =>
      have hv : v.Plain := h.of_gives ((hpart.some_iff v).1 rfl)
      simp [Checked.required, hcheck v hv]

theorem IsPart.required_text_iff (hpart : d.IsPart keys part) (h : d.Plain) {s : String} :
    Checked.required checkText part = .ok s ↔ d.Gives keys (.text s) := by
  rw [hpart.required_eq_ok_iff h s (R := fun v s => v = .text s) fun v hv => hv.checkText_eq_ok_iff]
  simp

end Parts

end Entries

/-! ### Further entries -/

/-- A map without the entries under other keys than the given ones. -/
def keepEntries (keys : List String) : Datum → Datum
  | map entries => map (entries.filter fun e => e.1.text?.any keys.contains)
  | d => d

/-- A map with the value under a key changed. -/
def mapEntry (key : String) (change : Datum → Datum) : Datum → Datum
  | map entries =>
    map (entries.map fun e => (e.1, if e.1.text? = some key then change e.2 else e.2))
  | d => d

/-- A map with all values changed. -/
def mapValues (change : Datum → Datum) : Datum → Datum
  | map entries => map (entries.map fun e => (e.1, change e.2))
  | d => d

/-- A list or set with all items changed. -/
def mapItems (change : Datum → Datum) : Datum → Datum
  | list items => list (items.map change)
  | set members => set (members.map change)
  | d => d

section FurtherEntries

variable {key other : String} {keys : List String} {change : Datum → Datum}

theorem field?_keepEntries (h : keys.contains key = true) (d : Datum) :
    (d.keepEntries keys).field? key = d.field? key := by
  cases d with
  | map entries =>
      rw [keepEntries, field?, List.find?_filter, field?]
      congr 2
      funext e
      cases htext : e.1.text? with
      | none => simp
      | some s =>
          by_cases hs : s = key
          · simp [hs, List.contains_iff_mem.1 h]
          · simp [hs]
  | _ => rfl

theorem field?_mapEntry_self (d : Datum) :
    (d.mapEntry key change).field? key = (d.field? key).map change := by
  cases d with
  | map entries =>
      rw [mapEntry, field?, List.find?_map, field?]
      simp only [Function.comp_def]
      cases hfind : entries.find? fun e => e.1.text? == some key with
      | none => rfl
      | some e =>
          have hkey : e.1.text? = some key := by simpa using List.find?_some hfind
          simp [hkey]
  | _ => rfl

theorem field?_mapEntry_of_ne (h : other ≠ key) (d : Datum) :
    (d.mapEntry key change).field? other = d.field? other := by
  cases d with
  | map entries =>
      rw [mapEntry, field?, List.find?_map, field?]
      simp only [Function.comp_def]
      cases hfind : entries.find? fun e => e.1.text? == some other with
      | none => rfl
      | some e =>
          have hkey : e.1.text? = some other := by simpa using List.find?_some hfind
          simp [hkey, h]
  | _ => rfl

theorem asText?_keepEntries (d : Datum) : (d.keepEntries keys).asText? = d.asText? := by
  cases d <;> rfl

theorem sequence?_mapItems (d : Datum) :
    (d.mapItems change).sequence? = d.sequence?.map (List.map change) := by
  cases d <;> rfl

end FurtherEntries

end Datum

/-! ### Checks -/

namespace Checked

variable {α β γ : Type}

theorem map₂_eq_ok_iff {f : α → β → γ} {a : Checked α} {b : Checked β} {c : γ} :
    map₂ f a b = .ok c ↔ ∃ x y, a = .ok x ∧ b = .ok y ∧ f x y = c := by
  cases a <;> cases b <;> simp [map₂]

/-- Every part of a list passes its check exactly if all do, each with a value at its place. -/
theorem each_eq_ok_iff {check : α → Checked β} {R : α → β → Prop} {xs : List α} {ys : List β}
    (hcheck : ∀ x ∈ xs, ∀ y, check x = .ok y ↔ R x y) :
    each check xs = .ok ys ↔ List.Forall₂ R xs ys := by
  induction xs generalizing ys with
  | nil => simp [each, eq_comm]
  | cons x xs ih =>
      obtain ⟨hx, hxs⟩ := List.forall_mem_cons.1 hcheck
      simp only [each, map₂_eq_ok_iff, hx, ih hxs, List.forall₂_cons_left_iff]
      constructor
      · rintro ⟨y, ys', hy, hys', rfl⟩
        exact ⟨y, ys', hy, hys', rfl⟩
      · rintro ⟨y, ys', hy, hys', rfl⟩
        exact ⟨y, ys', hy, hys', rfl⟩

theorem each_map {check : α → Checked β} {change : α → α} (h : ∀ x, check (change x) = check x)
    (xs : List α) : each check (xs.map change) = each check xs := by
  induction xs with
  | nil => rfl
  | cons x xs ih => rw [List.map_cons, each, each, h, ih]

theorem optional_map {check : Datum → Checked α} {default : α} {change : Datum → Datum}
    (h : ∀ d, check (change d) = check d) (part : Option Datum) :
    optional check default (part.map change) = optional check default part := by
  cases part with
  | none => rfl
  | some d => exact h d

end Checked

end MetricQuery
