import Mathlib.Data.List.TakeWhile
import MetricQuery.Maker.Module

/-!
# Templates that cannot be built

A template that cannot be built is rejected with a reason, unless its class path is relative: a
relative path starts with a dot and has another one, so the module it names is to be found from
another module, and there is none to start from.  Relative paths are the only ones whose resolution
ends in another way than with a class or a rejection, and building adds no further way.

## Main definitions

* `MakerClass.IsRelative` : paths that are relative to a module.

## Main results

* `MakerClass.splitPath_append` : a path is split at its last dot.
* `MakerClass.resolve_eq_relativePath_iff`, `Template.build_eq_relativePath_iff` : the templates
  that are neither built nor rejected.
-/

namespace MetricQuery

theorem mapError_rejected_ne_relativePath {α : Type} (x : Except Rejection α)
    (moduleName : String) :
    x.mapError BuildFault.rejected ≠ .error (.relativePath moduleName) := by
  cases x <;> simp [Except.mapError]

namespace MakerClass

/-! ### The last dot of a path -/

theorem splitPath_append {member : List Char} (moduleName : List Char) (h : '.' ∉ member) :
    splitPath (moduleName ++ '.' :: member) = (moduleName, member) := by
  have hmember : ∀ c ∈ member.reverse, (c != '.') = true := fun c hc =>
    bne_iff_ne.2 fun hdot => h (hdot ▸ List.mem_reverse.1 hc)
  have htail : ((moduleName ++ '.' :: member).reverse.takeWhile (· != '.')).reverse = member := by
    rw [List.reverse_append, List.reverse_cons, List.append_assoc,
      List.takeWhile_append_of_pos hmember]
    simp
  have hlength : (moduleName ++ '.' :: member).length - member.length - 1 = moduleName.length := by
    simp only [List.length_append, List.length_cons]
    omega
  simp only [splitPath, htail, hlength, List.take_left]

theorem splitPath_of_notMem {path : List Char} (h : '.' ∉ path) : splitPath path = ([], path) := by
  have hpath : ∀ c ∈ path.reverse, (c != '.') = true := fun c hc =>
    bne_iff_ne.2 fun hdot => h (hdot ▸ List.mem_reverse.1 hc)
  simp only [splitPath, List.takeWhile_eq_self_iff.2 hpath, List.reverse_reverse, Nat.sub_self,
    Nat.zero_sub, List.take_zero]

theorem exists_append_of_mem_dot {path : List Char} (h : '.' ∈ path) :
    ∃ moduleName member, path = moduleName ++ '.' :: member ∧ '.' ∉ member := by
  obtain ⟨back, front, hpath, hback⟩ := List.eq_append_cons_of_mem (List.mem_reverse.2 h)
  refine ⟨front.reverse, back.reverse, ?_, fun hdot => hback (List.mem_reverse.1 hdot)⟩
  rw [← List.reverse_reverse path, hpath, List.reverse_append, List.reverse_cons]
  simp

/-! ### Relative paths -/

/-- A path that is relative to a module: it starts with a dot and has another one. -/
def IsRelative (path : String) : Prop :=
  ∃ rest, path.toList = '.' :: rest ∧ '.' ∈ rest

/-- A path is relative exactly if the part before its last dot starts with a dot. -/
theorem isRelative_iff {path : String} :
    IsRelative path ↔ ∃ rest, (splitPath path.toList).1 = '.' :: rest := by
  constructor
  · rintro ⟨rest, hpath, hrest⟩
    obtain ⟨moduleName, member, hsplit, hmember⟩ := exists_append_of_mem_dot hrest
    rw [hpath, hsplit, ← List.cons_append, splitPath_append _ hmember]
    exact ⟨moduleName, rfl⟩
  · rintro ⟨rest, hrest⟩
    by_cases hdot : '.' ∈ path.toList
    · obtain ⟨moduleName, member, hsplit, hmember⟩ := exists_append_of_mem_dot hdot
      rw [hsplit, splitPath_append _ hmember] at hrest
      refine ⟨rest ++ '.' :: member, ?_, List.mem_append_right _ List.mem_cons_self⟩
      rw [hsplit, show moduleName = '.' :: rest from hrest, List.cons_append]
    · rw [splitPath_of_notMem hdot] at hrest
      exact absurd hrest (List.cons_ne_nil _ _).symm

/-- No built-in class has a relative path for its name. -/
theorem find?_builtIn_of_isRelative {path : String} (h : IsRelative path) :
    builtIn.find? (·.name == path) = none := by
  obtain ⟨rest, hrest, -⟩ := h
  have hnames : ∀ c ∈ builtIn, c.name.toList.head? ≠ some '.' := by decide
  refine List.find?_eq_none.2 fun c hc hname => hnames c hc ?_
  rw [beq_iff_eq.1 hname, hrest]
  rfl

/-- A class is found by its name if it is built in. -/
theorem resolve_name {c : MakerClass} (hc : c ∈ builtIn) (outside : List Module) :
    resolve outside c.name = .ok (.own c) := by
  have hfind : ∀ c ∈ builtIn, builtIn.find? (·.name == c.name) = some c := by decide
  rw [resolve, hfind c hc]

/-- The resolution of a path ends without a class and without a rejection exactly if the path is
relative. -/
theorem resolve_eq_relativePath_iff {outside : List Module} {path moduleName : String} :
    resolve outside path = .error (.relativePath moduleName) ↔
      IsRelative path ∧ moduleName = String.ofList (splitPath path.toList).1 := by
  constructor
  · intro h
    rw [resolve] at h
    split at h
    · exact nomatch h
    · dsimp only at h
      split at h
      · exact nomatch h
      · rename_i rest hrest
        injection h with h
        injection h with h
        exact ⟨isRelative_iff.2 ⟨rest, hrest⟩, h.symm⟩
      · exact absurd h (mapError_rejected_ne_relativePath _ _)
  · rintro ⟨hpath, rfl⟩
    obtain ⟨rest, hrest⟩ := isRelative_iff.1 hpath
    simp only [resolve, find?_builtIn_of_isRelative hpath, hrest]

end MakerClass

/-- A class of the package builds its own makers. -/
theorem AnyClass.build_own (c : MakerClass) (t : Template) :
    (own c).build t = (c.build t).map .own := by
  have hbuild : (own c).build t =
      t.arguments c.name c.parameters >>= fun args => (c.construct args).map .own := rfl
  rw [hbuild, MakerClass.build]
  cases t.arguments c.name c.parameters <;> rfl

namespace Template

/-- A template with the name of a built-in class describes a maker of the package. -/
theorem build_of_builtIn {t : Template} {c : MakerClass} (hc : c ∈ MakerClass.builtIn)
    (hpath : t.classPath = c.name) (outside : List Module) :
    t.build outside = ((c.build t).map AnyMaker.own).mapError .rejected := by
  rw [build, hpath, MakerClass.resolve_name hc, ← AnyClass.build_own]
  rfl

/-- Building a template ends without a maker and without a rejection exactly if its class path is
relative. -/
theorem build_eq_relativePath_iff {outside : List Module} {t : Template} {moduleName : String} :
    t.build outside = .error (.relativePath moduleName) ↔ MakerClass.IsRelative t.classPath ∧
      moduleName = String.ofList (MakerClass.splitPath t.classPath.toList).1 := by
  rw [← @MakerClass.resolve_eq_relativePath_iff outside, build]
  cases hclass : MakerClass.resolve outside t.classPath with
  | error fault =>
      exact ⟨fun h => congrArg Except.error (Except.error.inj h),
        fun h => congrArg Except.error (Except.error.inj h)⟩
  | ok c => exact ⟨fun h => absurd h (mapError_rejected_ne_relativePath _ _), fun h => nomatch h⟩

theorem exists_build_eq_relativePath {t : Template} (h : MakerClass.IsRelative t.classPath)
    (outside : List Module) :
    ∃ moduleName, t.build outside = .error (.relativePath moduleName) :=
  ⟨_, build_eq_relativePath_iff.2 ⟨h, rfl⟩⟩

end Template

end MetricQuery
