import MetricQuery.Maker.Module
import MetricQuery.Proofs.Config.Templates
import MetricQuery.Proofs.Maker.Literal
import MetricQuery.Proofs.Maker.Signature
import MetricQuery.Proofs.Number.Integer

/-!
# Typed values of parameters

A document gives parameters typed values, a template keeps them as literal texts, and a class reads
the texts again as the kinds that it declares.  An integer, a truth value or a text of a parameter
of its own kind is read back as itself.  A value of another kind is not taken for one: a truth value
or a binary number is never read as an integer, and of the integers only 1 and 0 are read as truth
values.

## Main definitions

* `Datum.Sets` : the value that a document gives a parameter.
* `ParameterKind.IsValue` : the values of documents that are of a kind.
* `Parameter.Arguments.Binds` : the value that stands for a parameter.

## Main results

* `Param.int_written`, `Param.bool_written_int` : literals of integers.
* `Datum.literal?_of_sets` : the literal for a parameter in a document.
* `Template.typed_values` : values of documents as arguments.
-/

namespace MetricQuery

/-! ### Literals read back -/

namespace Param

open Literal Text

theorem length_toDigits_of_lt {n : Nat} (h : n < integerBound) :
    (Nat.toDigits 10 n).length ≤ maxIntegerDigits := by
  have hlength : ∀ k, 0 < k → n < Nat.pow 10 k → (Nat.toDigits 10 n).length ≤ k :=
    fun k hk hn => (Nat.length_toDigits_le_iff (by decide) hk).2 hn
  unfold integerBound at h
  exact hlength _ (by decide) h

/-- An integer that is short enough to be written is read back. -/
theorem int_written {n : Int} (h : n.natAbs < integerBound) : int (toString n) = .ok n := by
  rw [int, readInteger_toString (length_toDigits_of_lt h)]

theorem int_of_readInteger_ne_ok {literal : String}
    (h : ∀ n, readInteger literal.toList ≠ .ok n) : ∃ fault, int literal = .error fault := by
  rw [int]
  cases hread : readInteger literal.toList with
  | ok n => exact absurd hread (h n)
  | error fault =>
      cases fault with
      | malformed => exact ⟨_, rfl⟩
      | tooLong digits => exact ⟨_, rfl⟩

/-- The word for a truth value is no integer. -/
theorem int_bool (b : Bool) : ∃ fault, int (Datum.bool b).literalText = .error fault := by
  refine int_of_readInteger_ne_ok fun n h => ?_
  have hmem : 'e' ∈ (Datum.bool b).literalText.toList := by
    cases b <;> decide
  exact absurd (isIntegerChar_of_readInteger h hmem (by decide)) (by decide)

/-- A written binary number is no integer. -/
theorem int_float (x : Binary64) : ∃ fault, int (Datum.float x).literalText = .error fault := by
  refine int_of_readInteger_ne_ok fun n => ?_
  have htext : (Datum.float x).literalText.toList = x.text := String.toList_ofList
  rw [htext]
  exact x.readInteger_text_ne_ok n

/-- The word for a truth value is read back. -/
theorem bool_written (b : Bool) : bool (Datum.bool b).literalText = .ok b := by
  cases b <;> rfl

theorem isBlank_of_isAsciiDigit {c : Char} (h : isAsciiDigit c = true) : isBlank c = false := by
  have hrange := toNat_of_isAsciiDigit h
  have hapart : ∀ range ∈ blanks, range.2 < 48 ∨ 57 < range.1 := by decide
  refine List.any_eq_false.2 fun range hmem hcontains => ?_
  rw [Bool.and_eq_true, decide_eq_true_iff, decide_eq_true_iff] at hcontains
  have hrange' := hapart range hmem
  omega

/-- A written integer has no blanks around it and is in lower case. -/
theorem lower_trim_toString (n : Int) :
    String.ofList (lower (trim (toString n).toList)) = toString n := by
  have hplain : ∀ c ∈ (toString n).toList, c.toNat < 0x80 ∧ isBlank c = false ∧ c.toLower = c := by
    intro c hc
    rcases mem_toString_int hc with rfl | hdigit
    · decide
    · exact ⟨by have := toNat_of_isAsciiDigit hdigit; omega, isBlank_of_isAsciiDigit hdigit,
        toLower_of_isAsciiDigit hdigit⟩
  have hlower : (toString n).toList.map Char.toLower = (toString n).toList :=
    (List.map_congr_left fun c hc => (hplain c hc).2.2).trans (List.map_id _)
  rw [trim, trimBy_eq_self fun c hc => (hplain c hc).2.1,
    lower_of_ascii fun c hc => (hplain c hc).1, hlower, String.ofList_toList]

theorem toString_ne_of_mem {n : Int} {word : String} {c : Char} (hc : c ∈ word.toList)
    (h : ¬(c = '-' ∨ isAsciiDigit c = true)) : (word == toString n) = false := by
  rw [beq_eq_false_iff_ne]
  rintro rfl
  exact h (mem_toString_int hc)

theorem digit_beq_toString {m n : Int} : (toString m == toString n) = decide (m = n) := by
  rw [Bool.eq_iff_iff, beq_iff_eq, decide_eq_true_iff, toString_int_inj]

/-- A written integer is read as a truth value if it is 1 or 0, and only then. -/
theorem bool_written_int {n : Int} {b : Bool} :
    bool (toString n) = .ok b ↔ n = 1 ∧ b = true ∨ n = 0 ∧ b = false := by
  have hone : ("1" == toString n) = decide (1 = n) := digit_beq_toString (m := 1)
  have hzero : ("0" == toString n) = decide (0 = n) := digit_beq_toString (m := 0)
  have htrue : ("true" == toString n) = false := toString_ne_of_mem (c := 't') (by simp) (by decide)
  have hyes : ("yes" == toString n) = false := toString_ne_of_mem (c := 'y') (by simp) (by decide)
  have hfalse : ("false" == toString n) = false :=
    toString_ne_of_mem (c := 'f') (by simp) (by decide)
  have hno : ("no" == toString n) = false := toString_ne_of_mem (c := 'n') (by simp) (by decide)
  simp only [bool, lower_trim_toString, truthWords, List.find?_cons, List.find?_nil, hone, hzero,
    htrue, hyes, hfalse, hno]
  by_cases h1 : 1 = n
  · simp [← h1, eq_comm]
  by_cases h0 : 0 = n
  · simp [← h0, eq_comm]
  · simp [h1, h0, Ne.symm h1, Ne.symm h0]

end Param

/-! ### Values of documents -/

namespace Datum

/-- A document gives a parameter a value: it stands in the map of the parameters under the key from
which the parameter is taken, as the last value whose key is written so. -/
def Sets (d : Datum) (parameter : String) (v : Datum) : Prop :=
  ∃ before key after, d.field? "params" = some (.map (before ++ (key, v) :: after)) ∧
    (∀ e ∈ after, e.1.written ≠ key.written) ∧
    Template.TakesFrom ((before ++ (key, v) :: after).map (·.1.written)).eraseDups parameter
      key.written

variable {d : Datum} {t : Template}

/-- The parameters of a template that is checked against a document. -/
theorem params_of_check (h : Template.check d = .ok t) {entries : List (Datum × Datum)}
    (hparams : d.field? "params" = some (.map entries)) :
    haveWritable entries = true ∧
      t.params = Keyed.ofList (entries.map fun e => (e.1.written, e.2.literalText)) := by
  obtain ⟨_, rfl⟩ : ∃ fields, d = .map fields := by
    cases d <;> simp [field?] at hparams ⊢
  obtain ⟨_, params, -, hchecked, rfl⟩ := Checked.map₂_eq_ok_iff.1 h
  rw [hparams, Checked.optional, Template.checkParams, literalEntries?] at hchecked
  by_cases hwritable : haveWritable entries = true
  · rw [if_pos hwritable] at hchecked
    exact ⟨hwritable, (Except.ok.inj hchecked).symm⟩
  · simp [hwritable] at hchecked

/-- The literal for a parameter is the literal text of the value that the document gives it. -/
theorem literal?_of_sets (h : Template.check d = .ok t) {parameter : String} {v : Datum}
    (hsets : d.Sets parameter v) :
    v.isWritable = true ∧ t.literal? parameter = some v.literalText := by
  obtain ⟨before, key, after, hparams, hlast, htaken⟩ := hsets
  obtain ⟨hwritable, ht⟩ := params_of_check h hparams
  have hkeys : t.params.keys = ((before ++ (key, v) :: after).map (·.1.written)).eraseDups := by
    rw [ht, Keyed.keys_ofList, Keyed.keys, List.map_map]
    rfl
  refine ⟨(haveWritable_iff.1 hwritable (key, v) (by simp)).2, Template.literal?_eq_some_iff.2 ?_⟩
  refine ⟨key.written, hkeys ▸ htaken, ?_⟩
  rw [ht, get?_literals_eq_some_iff]
  exact ⟨before, key, v, after, rfl, rfl, isLiteral_iff.2 rfl, hlast⟩

end Datum

/-! ### Values as arguments -/

/-- The values of documents that are of a kind as they stand. -/
inductive ParameterKind.IsValue : (kind : ParameterKind) → Datum → kind.Value → Prop
  | int (n : Int) : IsValue .int (.int n) n
  | bool (b : Bool) : IsValue .bool (.bool b) b
  | text (s : String) : IsValue .text (.text s) s

/-- The literal text of a value of a kind is read back as the value. -/
theorem ParameterKind.IsValue.read_literalText {kind : ParameterKind} {v : Datum} {x : kind.Value}
    (h : kind.IsValue v x) (hwritable : v.isWritable = true) :
    ∃ read, kind.read? = some read ∧ read v.literalText = .ok x := by
  cases h with
  | int n => exact ⟨Param.int, rfl, Param.int_written (decide_eq_true_iff.1 hwritable)⟩
  | bool b => exact ⟨Param.bool, rfl, Param.bool_written b⟩
  | text s => exact ⟨Param.text, rfl, rfl⟩

/-- The arguments have a value of a document for a parameter, and no other one. -/
def Parameter.Arguments.Binds {ps : List Parameter} (args : Parameter.Arguments ps) (p : Parameter)
    (v : Datum) : Prop :=
  ∃ x, p.kind.IsValue v x ∧ ∀ a : p.Argument, args.Has a ↔ a = p.argument x

namespace Template

variable {d v : Datum} {t : Template} {maker : String} {p : Parameter} {ps : List Parameter}

/-- A value of the kind of a parameter is what the template gives for the parameter. -/
theorem argument_of_isValue (h : check d = .ok t) (hsets : d.Sets p.name v) {x : p.kind.Value}
    (hvalue : p.kind.IsValue v x) : t.argument maker p = .ok (p.argument x) := by
  obtain ⟨hwritable, hliteral⟩ := Datum.literal?_of_sets h hsets
  obtain ⟨read, hkind, hread⟩ := hvalue.read_literalText hwritable
  rw [argument_of_literal hliteral hkind, hread]
  rfl

/-- What stands for a parameter among the arguments is the value that the template gives for it. -/
theorem binds_of_argument {args : Parameter.Arguments ps} (hargs : t.arguments maker ps = .ok args)
    (hp : p ∈ ps) {x : p.kind.Value} (hvalue : p.kind.IsValue v x)
    (h : t.argument maker p = .ok (p.argument x)) : args.Binds p v := by
  refine ⟨x, hvalue, fun a => ?_⟩
  rw [has_iff hargs hp, h, Except.ok.injEq, eq_comm]

/-- A truth value or a binary number is not taken for an integer. -/
theorem argument_int_eq_error (h : check d = .ok t) (hsets : d.Sets p.name v)
    (hkind : p.kind = .int) (hv : (∃ b, v = .bool b) ∨ ∃ x, v = .float x) :
    ∃ reason, t.argument maker p = .error reason := by
  obtain ⟨-, hliteral⟩ := Datum.literal?_of_sets h hsets
  obtain ⟨name, kind, isRequired⟩ := p
  obtain rfl : kind = .int := hkind
  obtain ⟨fault, hfault⟩ : ∃ fault, Param.int v.literalText = .error fault := by
    rcases hv with ⟨b, rfl⟩ | ⟨x, rfl⟩
    · exact Param.int_bool b
    · exact Param.int_float x
  rw [argument_of_literal hliteral rfl, hfault]
  exact ⟨_, rfl⟩

/-- An integer is taken for a truth value if it is 1 or 0, and only then. -/
theorem argument_bool_iff (h : check d = .ok t) (hkind : p.kind = .bool) {n : Int}
    (hsets : d.Sets p.name (.int n)) (a : p.Argument) :
    t.argument maker p = .ok a ↔ ∃ b x, (n = 1 ∧ b = true ∨ n = 0 ∧ b = false) ∧
      p.kind.IsValue (.bool b) x ∧ a = p.argument x := by
  obtain ⟨-, hliteral⟩ := Datum.literal?_of_sets h hsets
  obtain ⟨name, kind, isRequired⟩ := p
  obtain rfl : kind = .bool := hkind
  have hwritten : (Datum.int n).literalText = toString n := rfl
  rw [argument_of_literal hliteral rfl, hwritten, Except.mapError_eq_ok_iff, Except.map_eq_ok_iff]
  simp only [Param.bool_written_int]
  constructor
  · rintro ⟨b, hb, rfl⟩
    exact ⟨b, b, hb, .bool b, rfl⟩
  · rintro ⟨b, x, hb, ⟨⟩, rfl⟩
    exact ⟨b, hb, rfl⟩

/-- **Typed values of parameters.**  Take a template that a document describes, and a parameter of
any signature that the document sets to a value.  If the value is of the kind of the parameter, the
template gives it, and the arguments have exactly this value for the parameter.  A truth value or a
binary number for an integer leaves the template without arguments.  An integer for a truth value is
taken for one if it is 1 or 0, and only then.  What a class builds comes from the arguments for its
own signature, whatever modules there are outside. -/
theorem typed_values (hcheck : check d = .ok t) (hsets : d.Sets p.name v) (hp : p ∈ ps) :
    ((∃ x, p.kind.IsValue v x) →
      (∃ a, t.argument maker p = .ok a) ∧
      ∀ args, t.arguments maker ps = .ok args → args.Binds p v) ∧
    (p.kind = .int → ((∃ b, v = .bool b) ∨ ∃ x, v = .float x) →
      ∃ reason, t.arguments maker ps = .error reason) ∧
    (p.kind = .bool → ∀ n, v = .int n →
      ((∃ a, t.argument maker p = .ok a) ↔ n = 1 ∨ n = 0) ∧
      ∀ args, t.arguments maker ps = .ok args →
        n = 1 ∧ args.Binds p (.bool true) ∨ n = 0 ∧ args.Binds p (.bool false)) ∧
    ∀ outside c, MakerClass.resolve outside t.classPath = .ok c →
      t.build outside = (do
        c.resolveKinds
        c.construct (← t.arguments c.name c.parameters)).mapError .rejected := by
  refine ⟨?_, ?_, ?_, ?_⟩
  · rintro ⟨x, hvalue⟩
    have hargument : t.argument maker p = .ok (p.argument x) :=
      argument_of_isValue hcheck hsets hvalue
    exact ⟨⟨_, hargument⟩, fun args hargs => binds_of_argument hargs hp hvalue hargument⟩
  · intro hkind hv
    obtain ⟨reason, hreason⟩ : ∃ reason, t.argument maker p = .error reason :=
      argument_int_eq_error hcheck hsets hkind hv
    cases hargs : t.arguments maker ps with
    | error reason => exact ⟨reason, rfl⟩
    | ok args =>
        obtain ⟨a, ha⟩ := exists_arguments_iff.1 ⟨args, hargs⟩ p hp
        exact nomatch hreason.symm.trans ha
  · rintro hkind n rfl
    constructor
    · constructor
      · rintro ⟨a, ha⟩
        obtain ⟨b, x, hb, -⟩ := (argument_bool_iff hcheck hkind hsets a).1 ha
        exact hb.imp And.left And.left
      · intro hn
        obtain ⟨x, hx⟩ : ∃ x, p.kind.IsValue (.bool (decide (n = 1))) x := hkind ▸ ⟨_, .bool _⟩
        refine ⟨p.argument x, (argument_bool_iff hcheck hkind hsets _).2 ⟨_, x, ?_, hx, rfl⟩⟩
        rcases hn with rfl | rfl
        · exact .inl ⟨rfl, rfl⟩
        · exact .inr ⟨rfl, rfl⟩
    · intro args hargs
      obtain ⟨a, ha⟩ := exists_arguments_iff.1 ⟨args, hargs⟩ p hp
      obtain ⟨b, x, hb, hvalue, rfl⟩ := (argument_bool_iff hcheck hkind hsets a).1 ha
      have hbinds : args.Binds p (.bool b) := binds_of_argument hargs hp hvalue ha
      rcases hb with ⟨hn, rfl⟩ | ⟨hn, rfl⟩
      · exact .inl ⟨hn, hbinds⟩
      · exact .inr ⟨hn, hbinds⟩
  · intro outside c hc
    rw [build, hc]
    rfl

/-- A document with the template of one sketch. -/
def sketchDocument (size : Datum) : Datum :=
  .record [("name", .text "users"), ("classPath", .text "ThetaSketchMaker"),
    ("params", .record [("sketchSize", size)])]

theorem sets_sketchDocument (size : Datum) : (sketchDocument size).Sets "sketch_size" size := by
  have hown : "sketch_size" ∉ ["sketchSize"] := by decide
  have hjoined : "sketch_size".camelCase ∈ ["sketchSize"] := by decide
  exact ⟨[], .text "sketchSize", [], rfl, by simp, .joined hown hjoined⟩

/-- The size of a sketch is the integer of the document; a binary number is refused. -/
theorem typed_values_sketch :
    let sized : Template := ⟨"users", "ThetaSketchMaker", [("sketchSize", "4096")]⟩
    let halved : Template := ⟨"users", "ThetaSketchMaker", [("sketchSize", "0.5")]⟩
    let half : Binary64 := .ofRat (1 / 2)
    let size : Parameter := ⟨"sketch_size", .int, true⟩
    check (sketchDocument (.int 4096)) = .ok sized ∧
      (∃ args, sized.arguments "ThetaSketchMaker" [size] = .ok args ∧ args.Binds size (.int 4096)) ∧
      check (sketchDocument (.float half)) = .ok halved ∧
      ∃ reason, halved.arguments "ThetaSketchMaker" [size] = .error reason := by
  intro sized halved half size
  have hsized : check (sketchDocument (.int 4096)) = .ok sized := by decide +kernel
  have hhalved : check (sketchDocument (.float half)) = .ok halved := by decide +kernel
  have hmem : size ∈ [size] := List.mem_singleton_self size
  refine ⟨hsized, ?_, hhalved, ?_⟩
  · obtain ⟨hbinds, -⟩ := typed_values hsized (sets_sketchDocument (.int 4096)) hmem
    obtain ⟨⟨a, ha⟩, hbinds⟩ := hbinds ⟨4096, .int 4096⟩
    obtain ⟨args, hargs⟩ := exists_arguments_iff.2 (List.forall_mem_singleton.2 ⟨a, ha⟩)
    exact ⟨args, hargs, hbinds args hargs⟩
  · obtain ⟨-, hrefused, -⟩ := typed_values hhalved (sets_sketchDocument (.float half)) hmem
    exact hrefused rfl (.inr ⟨half, rfl⟩)

end Template

end MetricQuery
