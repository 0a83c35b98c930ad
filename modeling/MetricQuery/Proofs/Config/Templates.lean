import Mathlib.Data.Nat.Digits.Lemmas
import MetricQuery.Proofs.Config.Entries
import MetricQuery.Proofs.Distinct
import MetricQuery.Proofs.Keyed
import MetricQuery.Proofs.Outcome
import MetricQuery.Config.File

/-!
# The grammar of maker documents

A maker document is a map with a list of templates under one key.  Its grammar is stated here
without the checks: which document is a template and of which one, and which parameters the values
in a map stand for.  Null stands for an absent value at two places only, the whole document and the
parameters of a template.

The parameters are kept as texts.  This narrows the grammar at one point and folds entries at
another: an integer with too many digits has no text, however deep it stands, and keys that are
written alike, such as `1` and `"1"`, are one parameter, of which the last value counts.

A plain document has templates exactly if it is a maker document in this sense, and they are the
ones that it describes (`Template.templates_iff_grammar`).  Other entries of the maps make no
difference.

## Main definitions

* `Datum.Within`, `Datum.Writable` : the values inside a value, and the values that have a text.
* `Datum.IsLiteral`, `Datum.IsParams` : literal texts and parameters.
* `Datum.IsTemplate`, `Datum.IsMakerDocument` : documents of a template and of several.
* `Template.trimDocument` : a document without the entries that no check looks at.

## Main results

* `Datum.Plain.isWritable_iff` : the values that have a text.
* `Datum.Plain.checkParams_eq_ok_iff`, `Datum.Plain.checkTemplate_eq_ok_iff` : the checks of the
  parts.
* `Template.checkAll_trimDocument` : other entries make no difference.
* `Template.templates_iff_grammar` : the templates of a plain document.
-/

namespace MetricQuery

namespace Datum

/-! ### Grammar -/

/-- A value is another one or stands inside it, as an item, a key or a value of any depth. -/
inductive Within (part : Datum) : Datum → Prop
  | self : Within part part
  | item {items : List Datum} {d : Datum} (hd : d ∈ items) (h : Within part d) :
      Within part (.list items)
  | key {entries : List (Datum × Datum)} {e : Datum × Datum} (he : e ∈ entries)
      (h : Within part e.1) : Within part (.map entries)
  | value {entries : List (Datum × Datum)} {e : Datum × Datum} (he : e ∈ entries)
      (h : Within part e.2) : Within part (.map entries)

/-- A value has a text: no integer inside it has too many digits. -/
def Writable (d : Datum) : Prop :=
  ∀ n, Within (.int n) d → (Nat.digits 10 n.natAbs).length ≤ Literal.maxIntegerDigits

/-- The literal text of a value: a text as it is, a truth value in lower case, any other value as
it is written. -/
inductive IsLiteral : Datum → String → Prop
  | text (s : String) : IsLiteral (.text s) s
  | yes : IsLiteral (.bool true) "true"
  | no : IsLiteral (.bool false) "false"
  | other {d : Datum} (htext : ∀ s, d ≠ .text s) (hbool : ∀ b, d ≠ .bool b) : IsLiteral d d.written

/-- A text is the literal of the last entry whose key is written in a way. -/
def LastLiteral (entries : List (Datum × Datum)) (key s : String) : Prop :=
  ∃ before k v after, entries = before ++ (k, v) :: after ∧ k.written = key ∧ v.IsLiteral s ∧
    ∀ e ∈ after, e.1.written ≠ key

/-- A document describes the parameters of a template: null none, and a map whose values have texts
one for each text of a key, in the order of the first entries with these texts. -/
inductive IsParams : Datum → Keyed String String → Prop
  | null : IsParams .null []
  | map {entries : List (Datum × Datum)} {params : Keyed String String}
      (hwritable : (Datum.map entries).Writable)
      (hkeys : params.keys = (entries.map (·.1.written)).eraseDups)
      (hvalues : ∀ key s, params.get? key = some s ↔ LastLiteral entries key s) :
      IsParams (.map entries) params

/-- A document is the map of a template. -/
structure IsTemplate (d : Datum) (t : Template) : Prop where
  name : d.Gives ["name"] (.text t.name)
  name_ne : t.name ≠ ""
  classPath : d.Gives ["classPath", "class_path"] (.text t.classPath)
  classPath_ne : t.classPath ≠ ""
  params : d.Omits ["params"] ∧ t.params = [] ∨
    ∃ value, d.Gives ["params"] value ∧ value.IsParams t.params

/-- A document describes templates: null none, a map without templates none, and a map with a list
one for each item in their order. -/
inductive IsMakerDocument : Datum → List Template → Prop
  | null : IsMakerDocument .null []
  | none {entries : List (Datum × Datum)} (h : (Datum.map entries).Lacks "makers") :
      IsMakerDocument (.map entries) []
  | listed {d : Datum} {items : List Datum} {ts : List Template}
      (h : d.HasEntry "makers" (.list items)) (hts : List.Forall₂ IsTemplate items ts) :
      IsMakerDocument d ts

/-! ### Values that have a text -/

theorem areWritable_iff {items : List Datum} :
    areWritable items = true ↔ ∀ d ∈ items, d.isWritable = true := by
  induction items with
  | nil => simp [areWritable]
  | cons d items ih => simp [areWritable, ih]

theorem haveWritable_iff {entries : List (Datum × Datum)} :
    haveWritable entries = true ↔
      ∀ e ∈ entries, e.1.isWritable = true ∧ e.2.isWritable = true := by
  induction entries with
  | nil => simp [haveWritable]
  | cons e entries ih => simp [haveWritable, ih]

theorem writable_scalar_iff {s : Scalar} :
    (scalar s).Writable ↔
      ∀ n, s = .int n → (Nat.digits 10 n.natAbs).length ≤ Literal.maxIntegerDigits := by
  constructor
  · rintro h n rfl
    exact h n .self
  · rintro h n ⟨⟩
    exact h n rfl

theorem writable_list_iff {items : List Datum} :
    (list items).Writable ↔ ∀ d ∈ items, d.Writable := by
  constructor
  · exact fun h d hd n hn => h n (.item hd hn)
  · rintro h n (_ | ⟨hd, hn⟩)
    exact h _ hd n hn

theorem writable_map_iff {entries : List (Datum × Datum)} :
    (map entries).Writable ↔ ∀ e ∈ entries, e.1.Writable ∧ e.2.Writable := by
  constructor
  · exact fun h e he => ⟨fun n hn => h n (.key he hn), fun n hn => h n (.value he hn)⟩
  · rintro h n (_ | _ | ⟨he, hn⟩ | ⟨he, hn⟩)
    · exact (h _ he).1 n hn
    · exact (h _ he).2 n hn

/-- An integer is short enough to be written if it has few decimal digits. -/
theorem natAbs_lt_integerBound_iff {n : Int} :
    n.natAbs < integerBound ↔ (Nat.digits 10 n.natAbs).length ≤ Literal.maxIntegerDigits := by
  have hpow : ∀ k m : Nat, m < Nat.pow 10 k ↔ (Nat.digits 10 m).length ≤ k :=
    fun k m => (Nat.digits_length_le_iff (by decide) m).symm
  unfold integerBound
  exact hpow _ _

/-- The values that have a text, by induction on their structure. -/
theorem Plain.isWritable_iff {d : Datum} (h : d.Plain) : d.isWritable = true ↔ d.Writable := by
  induction h with
  | scalar s =>
      rw [writable_scalar_iff]
      cases s with
      | int n =>
          rw [isWritable, decide_eq_true_iff, natAbs_lt_integerBound_iff]
          simp
      | _ => simp [isWritable]
  | date _ | instant _ =>
      simp only [isWritable, true_iff]
      rintro n ⟨⟩
  | @list items _ ih =>
      rw [isWritable, areWritable_iff, writable_list_iff]
      exact forall₂_congr ih
  | @map entries _ _ _ ihKeys ihValues =>
      rw [isWritable, haveWritable_iff, writable_map_iff]
      exact forall₂_congr fun e he => and_congr (ihKeys e he) (ihValues e he)

/-! ### Checks of the parts -/

theorem isLiteral_iff {d : Datum} {s : String} : d.IsLiteral s ↔ d.literalText = s := by
  constructor
  · rintro (_ | _ | _ | ⟨htext, hbool⟩)
    · rfl
    · rfl
    · rfl
    · rw [literalText]
      exact fun b => hbool b
  · rintro rfl
    cases d with
    | scalar s =>
        cases s with
        | bool b =>
            cases b with
            | false => exact .no
            | true => exact .yes
        | text s => exact .text s
        | _ => exact .other (fun _ => nofun) (fun _ => nofun)
    | _ => exact .other (fun _ => nofun) (fun _ => nofun)

/-- The parameter under a key is the literal text of the last entry. -/
theorem get?_literals_eq_some_iff {entries : List (Datum × Datum)} {key s : String} :
    Keyed.get? (Keyed.ofList (entries.map fun e => (e.1.written, e.2.literalText))) key = some s ↔
      LastLiteral entries key s := by
  simp only [Keyed.get?_ofList_eq_some_iff, List.map_eq_append_iff, List.map_eq_cons_iff]
  constructor
  · rintro ⟨_, _, ⟨before, _, rfl, rfl, ⟨k, v⟩, after, rfl, hentry, rfl⟩, hafter⟩
    obtain ⟨hkey, hvalue⟩ := Prod.mk.inj hentry
    refine ⟨before, k, v, after, rfl, hkey, isLiteral_iff.2 hvalue, fun e he hkey => hafter ?_⟩
    exact List.mem_map.2 ⟨_, List.mem_map.2 ⟨e, he, rfl⟩, hkey⟩
  · rintro ⟨before, k, v, after, rfl, rfl, hvalue, hafter⟩
    obtain rfl := isLiteral_iff.1 hvalue
    refine ⟨_, _, ⟨before, _, rfl, rfl, (k, v), after, rfl, rfl, rfl⟩, fun hmem => ?_⟩
    obtain ⟨_, hentry, hkey⟩ := List.mem_map.1 hmem
    obtain ⟨e, he, rfl⟩ := List.mem_map.1 hentry
    exact hafter e he hkey

/-- The parameters of a map are the literals of its entries, collected under the texts of their
keys. -/
theorem isParams_map_iff {entries : List (Datum × Datum)} {params : Keyed String String} :
    (map entries).IsParams params ↔ (map entries).Writable ∧
      Keyed.ofList (entries.map fun e => (e.1.written, e.2.literalText)) = params := by
  have hkeys : Keyed.keys (Keyed.ofList (entries.map fun e => (e.1.written, e.2.literalText))) =
      (entries.map (·.1.written)).eraseDups := by
    rw [Keyed.keys_ofList, Keyed.keys, List.map_map]
    rfl
  constructor
  · rintro (_ | ⟨hwritable, hkeys', hvalues⟩)
    refine ⟨hwritable, Keyed.eq_of_get?_eq (hkeys.trans hkeys'.symm) ?_ fun key => ?_⟩
    · rw [hkeys, ← distinct_eq_eraseDups]
      exact noRepeats_iff_nodup.1 (noRepeats_distinct _)
    · exact Option.ext fun s => get?_literals_eq_some_iff.trans (hvalues key s).symm
  · rintro ⟨hwritable, rfl⟩
    exact .map hwritable hkeys fun _ _ => get?_literals_eq_some_iff

section Plain

variable {d : Datum}

theorem Plain.checkParams_eq_ok_iff (h : d.Plain) (params : Keyed String String) :
    Template.checkParams d = .ok params ↔ d.IsParams params := by
  cases h with
  | scalar s =>
      cases s with
      | null =>
          constructor
          · intro hok
            obtain rfl := Except.ok.inj hok
            exact .null
          · rintro ⟨⟩
            rfl
      | _ => exact ⟨(nomatch ·), (nomatch ·)⟩
  | @map entries hkeys hvalues hdifferent =>
      have hplain : (Datum.map entries).Plain := .map hkeys hvalues hdifferent
      rw [isParams_map_iff, ← hplain.isWritable_iff, isWritable, Template.checkParams,
        literalEntries?]
      split_ifs with hwritable <;> simp [hwritable]
  | _ => exact ⟨(nomatch ·), (nomatch ·)⟩

/-- A name is a text of at least one character. -/
theorem Plain.checkName_eq_ok_iff (h : d.Plain) {s : String} :
    Template.checkName d = .ok s ↔ d = .text s ∧ s ≠ "" := by
  rw [← h.asText?_eq_some_iff, Template.checkName]
  cases d.asText? with
  | none => simp
  | some s' =>
      by_cases hs : s' = ""
      · simp [hs, eq_comm]
      · simp only [hs, if_false, Except.ok.injEq, Option.some_inj, ne_eq]
        constructor
        · rintro rfl
          exact ⟨rfl, hs⟩
        · exact And.left

/-- A part with the name in it passes its check. -/
theorem IsPart.required_name_iff {keys : List String} {part : Option Datum}
    (hpart : d.IsPart keys part) (h : d.Plain) {s : String} :
    Checked.required Template.checkName part = .ok s ↔ d.Gives keys (.text s) ∧ s ≠ "" := by
  rw [hpart.required_eq_ok_iff h s (R := fun v s => v = .text s ∧ s ≠ "")
    fun v hv => hv.checkName_eq_ok_iff]
  constructor
  · rintro ⟨_, hgives, rfl, hs⟩
    exact ⟨hgives, hs⟩
  · exact fun ⟨hgives, hs⟩ => ⟨_, hgives, rfl, hs⟩

theorem Plain.checkTemplate_eq_ok_iff (h : d.Plain) (t : Template) :
    Template.check d = .ok t ↔ d.IsTemplate t := by
  have hname := (h.isPart_field? "name").required_name_iff h (s := t.name)
  have hpath := (h.isPart_fieldOr? "classPath" "class_path").required_name_iff h (s := t.classPath)
  have hparams := (h.isPart_field? "params").optional_eq_ok_iff h [] t.params
    fun v hv => hv.checkParams_eq_ok_iff t.params
  constructor
  · intro hok
    match d with
    | .map entries =>
        obtain ⟨_, params, htexts, hps, rfl⟩ := Checked.map₂_eq_ok_iff.1 hok
        obtain ⟨name, path, hn, hp, rfl⟩ := Checked.map₂_eq_ok_iff.1 htexts
        exact ⟨(hname.1 hn).1, (hname.1 hn).2, (hpath.1 hp).1, (hpath.1 hp).2, hparams.1 hps⟩
  · intro ht
    obtain ⟨entries, rfl⟩ := ht.name.exists_map
    refine Checked.map₂_eq_ok_iff.2 ⟨(t.name, t.classPath), t.params, ?_, hparams.2 ht.params, rfl⟩
    exact Checked.map₂_eq_ok_iff.2 ⟨_, _, hname.2 ⟨ht.name, ht.name_ne⟩,
      hpath.2 ⟨ht.classPath, ht.classPath_ne⟩, rfl⟩

end Plain

end Datum

/-! ### Checks of documents -/

namespace Template

/-- A plain list has the templates of its items, if each item is one. -/
theorem checkList_eq_ok_iff {items : List Datum} (h : ∀ d ∈ items, d.Plain) {ts : List Template} :
    checkList items = .ok ts ↔ List.Forall₂ Datum.IsTemplate items ts := by
  have hitem : ∀ d ∈ items, ∀ t,
      (check d).mapError TemplateFault.invalid = .ok t ↔ d.IsTemplate t := fun d hd t => by
    rw [Except.mapError_eq_ok_iff, (h d hd).checkTemplate_eq_ok_iff]
  rw [checkList, List.mapM_eq_ok_iff]
  exact List.forall₂_congr_of_mem hitem

/-- A plain map with a list has the templates of the list. -/
theorem isMakerDocument_iff_of_list {d : Datum} (h : d.Plain) {items : List Datum}
    (hentry : d.HasEntry "makers" (.list items)) {ts : List Template} :
    d.IsMakerDocument ts ↔ List.Forall₂ Datum.IsTemplate items ts := by
  constructor
  · rintro (_ | hlacks | ⟨hentry', hts⟩)
    · obtain ⟨_, ⟨⟩, _⟩ := hentry
    · exact absurd hentry (hlacks _)
    · have hsome := (h.field?_eq_some_iff.2 hentry').symm.trans (h.field?_eq_some_iff.2 hentry)
      obtain ⟨⟩ := hsome
      exact hts
  · exact .listed hentry

theorem checkAll_eq_ok_iff {d : Datum} (h : d.Plain) (ts : List Template) :
    checkAll d = .ok ts ↔ d.IsMakerDocument ts := by
  cases d with
  | scalar s =>
      cases s with
      | null =>
          constructor
          · intro hok
            obtain rfl := Except.ok.inj hok
            exact .null
          · rintro (_ | _ | ⟨⟨_, ⟨⟩, _⟩, _⟩)
            rfl
      | _ => exact ⟨(nomatch ·), fun | .listed ⟨_, h, _⟩ _ => nomatch h⟩
  | map entries =>
      rw [checkAll]
      cases hmakers : (Datum.map entries).field? "makers" with
      | none =>
          have hlacks := Datum.field?_eq_none_iff.1 hmakers
          constructor
          · intro hok
            obtain rfl := Except.ok.inj hok
            exact .none hlacks
          · rintro (_ | _ | ⟨hentry, _⟩)
            · rfl
            · exact absurd hentry (hlacks _)
      | some value =>
          have hentry := h.field?_eq_some_iff.1 hmakers
          cases value with
          | list items =>
              rw [isMakerDocument_iff_of_list h hentry]
              exact checkList_eq_ok_iff (h.of_hasEntry hentry).of_mem
          | _ =>
              -- The only value under the key is no list.
              refine ⟨(nomatch ·), ?_⟩
              rintro (_ | hlacks | ⟨hentry', _⟩)
              · exact absurd hentry (hlacks _)
              · exact nomatch hmakers.symm.trans (h.field?_eq_some_iff.2 hentry')
  | _ => exact ⟨(nomatch ·), fun | .listed ⟨_, h, _⟩ _ => nomatch h⟩

/-! ### Further entries -/

/-- A template without further entries. -/
def trim (d : Datum) : Datum :=
  d.keepEntries ["name", "classPath", "class_path", "params"]

/-- A document without further entries, in the map of the whole and in those of the templates. -/
def trimDocument (d : Datum) : Datum :=
  (d.keepEntries ["makers"]).mapEntry "makers" (Datum.mapItems trim)

theorem check_trim (d : Datum) : check (trim d) = check d := by
  cases d with
  | map entries =>
      obtain ⟨entries', htrim⟩ : ∃ entries', trim (.map entries) = .map entries' := ⟨_, rfl⟩
      have hkept : ∀ key ∈ ["name", "classPath", "class_path", "params"],
          (Datum.map entries').field? key = (Datum.map entries).field? key := fun key hkey => by
        rw [← htrim, trim, Datum.field?_keepEntries (List.contains_iff_mem.2 hkey)]
      simp only [htrim, check, Datum.fieldOr?, hkept "name" (by simp), hkept "classPath" (by simp),
        hkept "class_path" (by simp), hkept "params" (by simp)]
  | _ => rfl

theorem checkList_map_trim (items : List Datum) :
    checkList (items.map trim) = checkList items := by
  simp only [checkList, List.mapM_map, Function.comp_def, check_trim]

/-- Further entries make no difference to the templates. -/
theorem checkAll_trimDocument (d : Datum) : checkAll (trimDocument d) = checkAll d := by
  cases d with
  | map entries =>
      obtain ⟨entries', htrim⟩ : ∃ entries', trimDocument (.map entries) = .map entries' := ⟨_, rfl⟩
      have hmakers : (Datum.map entries').field? "makers" =
          ((Datum.map entries).field? "makers").map (Datum.mapItems trim) := by
        rw [← htrim, trimDocument, Datum.field?_mapEntry_self, Datum.field?_keepEntries (by decide)]
      rw [htrim, checkAll, checkAll, hmakers]
      cases (Datum.map entries).field? "makers" with
      | none => rfl
      | some value =>
          cases value with
          | list items => exact checkList_map_trim items
          | _ => rfl
  | _ => rfl

/-! ### The templates of plain documents -/

/-- **The templates of a document.**  A plain document has templates exactly if it describes some,
and they are the ones that it describes.  Any other plain document is refused.  Documents that
differ only in further entries have the same templates. -/
theorem templates_iff_grammar {d : Datum} (h : d.Plain) :
    (∀ ts, d.templates = .ok ts ↔ d.IsMakerDocument ts) ∧
    ((∀ ts, ¬ d.IsMakerDocument ts) → ∃ fault, d.templates = .error (.templates fault)) ∧
    ∀ d', trimDocument d' = trimDocument d → d'.templates = d.templates := by
  refine ⟨fun ts => ?_, fun hnone => ?_, fun d' htrim => ?_⟩
  · rw [← checkAll_eq_ok_iff h, Datum.templates]
    cases checkAll d <;> simp [Except.mapError]
  · rw [Datum.templates]
    cases hcheck : checkAll d with
    | error fault => exact ⟨fault, rfl⟩
    | ok ts => exact absurd ((checkAll_eq_ok_iff h ts).1 hcheck) (hnone ts)
  · rw [Datum.templates, ← checkAll_trimDocument d', htrim, checkAll_trimDocument, Datum.templates]

/-- A document with one template and its parameters, and an entry that no check looks at. -/
def documentOf (params : Datum) : Datum :=
  .record [("makers", .list [.record [("name", .text "dayAvg"),
    ("class_path", .text "AggregationAverageMaker"), ("params", params), ("owner", .text "web")]])]

theorem plain_documentOf {params : Datum} (h : params.Plain) : (documentOf params).Plain := by
  refine Datum.plain_record (by simp) (List.forall_mem_singleton.2 (.list ?_))
  refine List.forall_mem_singleton.2 (Datum.plain_record (by simp) ?_)
  simp only [List.forall_mem_cons, List.not_mem_nil, IsEmpty.forall_iff, implies_true, and_true]
  exact ⟨.scalar _, .scalar _, h, .scalar _⟩

/-- Parameters with an integer that has one digit too many. -/
def longParams : Datum :=
  .record [("n", .int integerBound)]

/-- Parameters with two keys that are written alike. -/
def alikeParams : Datum :=
  .map [(.int 1, .text "x"), (.text "1", .text "y")]

theorem plain_longParams : longParams.Plain :=
  Datum.plain_record (List.nodup_singleton _) (List.forall_mem_singleton.2 (.scalar _))

theorem plain_alikeParams : alikeParams.Plain := by
  refine .map ?_ ?_ (List.pairwise_pair.2 rfl)
  all_goals
    simp only [List.forall_mem_cons, List.not_mem_nil, IsEmpty.forall_iff, implies_true, and_true]
    exact ⟨.scalar _, .scalar _⟩

/-- Not every map has a parameter for each key.  An integer with too many digits has no text, and of
two keys that are written alike one stays, with the value of the second. -/
theorem templates_longInteger_alikeKeys :
    ((documentOf longParams).Plain ∧
      (documentOf longParams).templates = .error (.templates (.invalid 1))) ∧
    (documentOf alikeParams).Plain ∧
      (documentOf alikeParams).templates =
        .ok [⟨"dayAvg", "AggregationAverageMaker", [("1", "y")]⟩] :=
  ⟨⟨plain_documentOf plain_longParams, by decide +kernel⟩,
    plain_documentOf plain_alikeParams, by decide +kernel⟩

/-- Parameters of three kinds. -/
def dayParams : Datum :=
  .record [("innerGrain", .text "DAY"), ("exact", .bool true), ("weight", .int 5)]

theorem plain_dayParams : dayParams.Plain := by
  refine Datum.plain_record (by decide) ?_
  simp only [List.forall_mem_cons, List.not_mem_nil, IsEmpty.forall_iff, implies_true, and_true]
  exact ⟨.scalar _, .scalar _, .scalar _⟩

theorem templates_iff_grammar_dayAvg : (documentOf dayParams).Plain ∧
    (documentOf dayParams).IsMakerDocument [⟨"dayAvg", "AggregationAverageMaker",
      [("innerGrain", "DAY"), ("exact", "true"), ("weight", "5")]⟩] :=
  ⟨plain_documentOf plain_dayParams,
    ((templates_iff_grammar (plain_documentOf plain_dayParams)).1 _).1 (by decide +kernel)⟩

end Template

end MetricQuery
