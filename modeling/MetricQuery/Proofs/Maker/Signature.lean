import MetricQuery.Maker.Signature
import MetricQuery.Proofs.Outcome

/-!
# Signatures of maker classes

A template gives arguments for a signature exactly if it gives something for each parameter, and
what then stands for a parameter is what the template gives for it alone
(`Template.exists_arguments_iff`, `Template.has_iff`).  A template with a literal for a parameter
gives what the literal is read as (`Template.argument_of_literal`).

## Main definitions

* `Parameter.Arguments.Has` : an argument stands for a parameter of a signature.
* `ParameterKind.read?` : how the literals for parameters of a kind are read.

## Main results

* `Template.argument_of_literal` : what a literal gives for a parameter.
* `Template.has_iff`, `Template.exists_arguments_iff` : the arguments of a template.
-/

namespace MetricQuery

/-! ### Arguments of a signature -/

namespace Parameter

namespace Arguments

variable {p : Parameter} {argument : p.Argument}

/-- An argument stands for a parameter of a signature. -/
inductive Has (argument : p.Argument) : {ps : List Parameter} → Arguments ps → Prop
  | head {ps : List Parameter} (rest : Arguments ps) : Has argument (.cons argument rest)
  | tail {q : Parameter} {ps : List Parameter} {rest : Arguments ps} (first : q.Argument)
      (h : Has argument rest) : Has argument (.cons first rest)

theorem Has.mem {ps : List Parameter} {args : Arguments ps} (h : args.Has argument) : p ∈ ps := by
  induction h with
  | head rest => exact List.mem_cons_self
  | tail _ _ ih => exact List.mem_cons_of_mem _ ih

end Arguments

end Parameter

/-! ### What a template gives -/

/-- How the literal for a parameter of a kind is read, if it is. -/
def ParameterKind.read? : (kind : ParameterKind) → Option (String → Except Fault kind.Value)
  | grain => some Param.grain
  | int => some Param.int
  | float => some Param.float
  | bool => some Param.bool
  | text => some Param.text
  | metrics | dimensions | other => none

namespace Template

section Arguments

variable {t : Template} {maker : String} {p : Parameter}

theorem value?_of_read? {parameter : String} {kind : ParameterKind}
    {read : String → Except Fault kind.Value} (h : kind.read? = some read) :
    t.value? parameter kind = t.given parameter read := by
  cases kind with
  | metrics | dimensions | other => exact nomatch h
  | grain | int | float | bool | text =>
      obtain rfl := Option.some.inj h
      rfl

/-- What a template with a literal for a parameter gives for it. -/
theorem argument_of_literal {literal : String} (h : t.literal? p.name = some literal)
    {read : String → Except Fault p.kind.Value} (hread : p.kind.read? = some read) :
    t.argument maker p =
      ((read literal).map p.argument).mapError (.literalUnfit literal p.name) := by
  obtain ⟨name, kind, isRequired⟩ := p
  have hliteral : t.literal? name = some literal := h
  have hkind : kind.read? = some read := hread
  cases isRequired
  all_goals
    simp only [argument, value?_of_read? hkind, given, hliteral]
    cases read literal <;> rfl

theorem arguments_cons_eq_ok_iff {q : Parameter} {ps : List Parameter}
    {args : Parameter.Arguments (q :: ps)} :
    t.arguments maker (q :: ps) = .ok args ↔
      ∃ first rest, t.argument maker q = .ok first ∧ t.arguments maker ps = .ok rest ∧
        args = .cons first rest := by
  simp only [arguments, Except.bind_eq_ok_iff, pure, Except.pure, Except.ok.injEq]
  constructor
  · rintro ⟨first, hfirst, rest, hrest, rfl⟩
    exact ⟨first, rest, hfirst, hrest, rfl⟩
  · rintro ⟨first, rest, hfirst, hrest, rfl⟩
    exact ⟨first, hfirst, rest, hrest, rfl⟩

/-- What stands for a parameter among the arguments of a template is what the template gives for
it. -/
theorem has_iff {ps : List Parameter} {args : Parameter.Arguments ps}
    (h : t.arguments maker ps = .ok args) (hp : p ∈ ps) {a : p.Argument} :
    args.Has a ↔ t.argument maker p = .ok a := by
  induction ps with
  | nil => exact absurd hp List.not_mem_nil
  | cons q ps ih =>
      obtain ⟨first, rest, hfirst, hrest, rfl⟩ := arguments_cons_eq_ok_iff.1 h
      constructor
      · rintro (_ | ⟨_, ha⟩)
        · exact hfirst
        · exact (ih hrest ha.mem).1 ha
      · intro ha
        rcases List.mem_cons.1 hp with rfl | hp
        · obtain rfl := Except.ok.inj (hfirst.symm.trans ha)
          exact .head rest
        · exact .tail first ((ih hrest hp).2 ha)

/-- A template gives arguments exactly if it gives something for each parameter. -/
theorem exists_arguments_iff {ps : List Parameter} :
    (∃ args, t.arguments maker ps = .ok args) ↔ ∀ p ∈ ps, ∃ a, t.argument maker p = .ok a := by
  induction ps with
  | nil => exact iff_of_true ⟨.nil, rfl⟩ (fun _ hp => absurd hp List.not_mem_nil)
  | cons q ps ih =>
      rw [List.forall_mem_cons, ← ih]
      constructor
      · rintro ⟨args, h⟩
        obtain ⟨first, rest, hfirst, hrest, -⟩ := arguments_cons_eq_ok_iff.1 h
        exact ⟨⟨first, hfirst⟩, rest, hrest⟩
      · rintro ⟨⟨first, hfirst⟩, rest, hrest⟩
        exact ⟨_, arguments_cons_eq_ok_iff.2 ⟨first, rest, hfirst, hrest, rfl⟩⟩

end Arguments

end Template

end MetricQuery
