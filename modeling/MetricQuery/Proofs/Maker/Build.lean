import MetricQuery.Maker.Dictionary
import MetricQuery.Proofs.Keyed
import MetricQuery.Proofs.Maker.Resolution

/-!
# Builds of makers

A build takes one template after another.  A template that describes a maker adds it under its name,
unless the name is taken; one that is rejected leaves the reason; and a taken name or a relative
class path ends the build.  So a build that goes through all templates leaves the old makers
followed by those of the templates (`MakerDictionary.outcome_eq_none_iff`), and a build that ends
early leaves what the templates before the one that ends it have built
(`MakerDictionary.outcome_eq_some_iff`).

## Main definitions

* `Template.Buildable`, `Template.Rejected` : the templates that do not end a build by themselves.
* `builtEntries` : the makers of templates under their names.
* `FreshNames` : templates that register no name twice and none that is taken.
* `MakerDictionary.step` : what one template does to a dictionary.
* `MakerDictionary.extended` : what templates that do not end the build do to a dictionary.

## Main results

* `MakerDictionary.step_eq_ok_iff`, `MakerDictionary.step_eq_error_iff` : what one template does.
* `MakerDictionary.outcome_eq_none_iff`, `MakerDictionary.outcome_eq_some_iff` : what a build does.
-/

namespace MetricQuery

/-! ### Templates by the way they end -/

namespace Template

section Ends

variable (outside : List Module) (t : Template)

/-- The maker that a template describes. -/
def maker? : Option AnyMaker :=
  (t.build outside).toOption

/-- Templates that describe a maker. -/
def Buildable : Prop :=
  ∃ m, t.build outside = .ok m

/-- Templates that are rejected with a reason. -/
def Rejected : Prop :=
  ∃ reason, t.build outside = .error (.rejected reason)

/-- The reason for which a template is skipped, under its name. -/
def skip? : Option (String × String) :=
  match t.build outside with
  | .error (.rejected reason) => some (t.name, reason.text)
  | _ => none

end Ends

variable {outside : List Module} {t : Template}

theorem buildable_iff_exists_maker : t.Buildable outside ↔ ∃ m, t.maker? outside = some m := by
  rw [Buildable, maker?]
  cases t.build outside <;> simp [Except.toOption]

/-- Only a relative class path keeps a template from being built or rejected. -/
theorem buildable_or_rejected_iff :
    t.Buildable outside ∨ t.Rejected outside ↔ ¬ MakerClass.IsRelative t.classPath := by
  constructor
  · rintro h hpath
    obtain ⟨moduleName, hbuild⟩ := exists_build_eq_relativePath hpath outside
    obtain ⟨m, h⟩ | ⟨reason, h⟩ := h
    · exact nomatch h.symm.trans hbuild
    · exact nomatch h.symm.trans hbuild
  · intro hpath
    cases hbuild : t.build outside with
    | ok m => exact .inl ⟨m, hbuild⟩
    | error fault =>
        cases fault with
        | rejected reason => exact .inr ⟨reason, hbuild⟩
        | relativePath moduleName => exact absurd (build_eq_relativePath_iff.1 hbuild).1 hpath

end Template

/-! ### What templates build -/

section WhatTheyBuild

variable (outside : List Module)

/-- The makers of templates under their names. -/
def builtMakers (ts : List Template) : Keyed String AnyMaker :=
  ts.filterMap fun t => (t.maker? outside).map fun m => (t.name.lowerCase, m)

/-- The makers of templates under their names, numbered by the places of the templates. -/
def builtEntries (serial : Nat) (ts : List Template) : Keyed String MakerInstance :=
  (ts.zipIdx serial).filterMap fun (t, n) =>
    (t.maker? outside).map fun m => (t.name.lowerCase, ⟨n, m⟩)

/-- The reasons for which templates are skipped, put to those that there are. -/
def skippedBy (skipped : Keyed String String) (ts : List Template) : Keyed String String :=
  (ts.filterMap (Template.skip? outside)).foldl
    (fun skipped entry => skipped.put entry.1 entry.2) skipped

/-- Templates that register no name twice, and none that is taken. -/
def FreshNames (taken : List String) (ts : List Template) : Prop :=
  (builtMakers outside ts).keys.Nodup ∧ ∀ name ∈ (builtMakers outside ts).keys, name ∉ taken

end WhatTheyBuild

section Built

variable {outside : List Module} {taken : List String} {t : Template} {us ts : List Template}

theorem builtMakers_append (us ts : List Template) :
    builtMakers outside (us ++ ts) = builtMakers outside us ++ builtMakers outside ts :=
  List.filterMap_append

theorem keys_builtMakers_append (us ts : List Template) :
    (builtMakers outside (us ++ ts)).keys =
      (builtMakers outside us).keys ++ (builtMakers outside ts).keys := by
  rw [builtMakers_append, Keyed.keys, List.map_append]
  rfl

theorem builtEntries_append (serial : Nat) (us ts : List Template) :
    builtEntries outside serial (us ++ ts) =
      builtEntries outside serial us ++ builtEntries outside (serial + us.length) ts := by
  rw [builtEntries, List.zipIdx_append, List.filterMap_append]
  rfl

theorem skippedBy_append (skipped : Keyed String String) (us ts : List Template) :
    skippedBy outside skipped (us ++ ts) = skippedBy outside (skippedBy outside skipped us) ts := by
  rw [skippedBy, List.filterMap_append, List.foldl_append]
  rfl

/-- The numbers of the makers are all that the place of a template decides. -/
theorem builtEntries_map_maker (serial : Nat) (ts : List Template) :
    (builtEntries outside serial ts).map (fun entry => (entry.1, entry.2.maker)) =
      builtMakers outside ts := by
  conv_rhs => rw [builtMakers, ← List.zipIdx_map_fst serial ts, List.filterMap_map]
  rw [builtEntries, List.map_filterMap]
  refine List.filterMap_congr fun p _ => ?_
  cases hm : p.1.maker? outside <;> simp [hm]

theorem keys_builtEntries (serial : Nat) (ts : List Template) :
    (builtEntries outside serial ts).keys = (builtMakers outside ts).keys := by
  rw [← builtEntries_map_maker serial ts, Keyed.keys, Keyed.keys, List.map_map]
  rfl

theorem mem_keys_builtMakers {name : String} :
    name ∈ (builtMakers outside ts).keys ↔
      ∃ t ∈ ts, t.Buildable outside ∧ t.name.lowerCase = name := by
  simp only [Keyed.keys, builtMakers, List.mem_map, List.mem_filterMap, Option.map_eq_some_iff,
    Template.buildable_iff_exists_maker]
  constructor
  · rintro ⟨_, ⟨t, ht, m, hm, rfl⟩, rfl⟩
    exact ⟨t, ht, ⟨m, hm⟩, rfl⟩
  · rintro ⟨t, ht, ⟨m, hm⟩, rfl⟩
    exact ⟨_, ⟨t, ht, m, hm, rfl⟩, rfl⟩

theorem freshNames_append :
    FreshNames outside taken (us ++ ts) ↔
      FreshNames outside taken us ∧
      FreshNames outside (taken ++ (builtMakers outside us).keys) ts := by
  simp only [FreshNames, keys_builtMakers_append, List.nodup_append, List.mem_append, not_or]
  constructor
  · rintro ⟨⟨hus, hts, hne⟩, htaken⟩
    exact ⟨⟨hus, fun name h => htaken name (.inl h)⟩, hts,
      fun name h => ⟨htaken name (.inr h), fun h' => hne name h' name h rfl⟩⟩
  · rintro ⟨⟨hus, htaken⟩, hts, htaken'⟩
    refine ⟨⟨hus, hts, fun name h name' h' heq => (htaken' name' h').2 (heq ▸ h)⟩, ?_⟩
    rintro name (h | h)
    · exact htaken name h
    · exact (htaken' name h).1

theorem freshNames_singleton :
    FreshNames outside taken [t] ↔ (t.Buildable outside → t.name.lowerCase ∉ taken) := by
  rw [FreshNames]
  simp only [mem_keys_builtMakers, List.mem_singleton, exists_eq_left]
  constructor
  · rintro ⟨-, h⟩ ht
    exact h _ ⟨ht, rfl⟩
  · intro h
    refine ⟨?_, by rintro _ ⟨ht, rfl⟩; exact h ht⟩
    cases hm : t.maker? outside <;> simp [Keyed.keys, builtMakers, hm]

theorem FreshNames.perm {ts' : List Template} (hts : ts.Perm ts')
    (h : FreshNames outside taken ts) : FreshNames outside taken ts' := by
  have hkeys : (builtMakers outside ts).keys.Perm (builtMakers outside ts').keys :=
    (hts.filterMap _).map _
  exact ⟨hkeys.nodup_iff.1 h.1, fun name hname => h.2 name (hkeys.mem_iff.2 hname)⟩

end Built

namespace MakerDictionary

/-! ### One template -/

section Steps

variable (outside : List Module) (d : MakerDictionary) (serial : Nat)

/-- The dictionary with what templates build and with the reasons for which they are skipped. -/
def extended (ts : List Template) : MakerDictionary where
  entries := d.entries ++ builtEntries outside serial ts
  skipped := skippedBy outside d.skipped ts

/-- What one template does to a dictionary, or why it ends the build. -/
def step (t : Template) : Except BuildStop MakerDictionary :=
  match t.build outside with
  | .error (.relativePath moduleName) => .error (.relativePath moduleName)
  | .error (.rejected reason) => .ok { d with skipped := d.skipped.put t.name reason.text }
  | .ok m =>
    match d.add t.name ⟨serial, m⟩ with
    | (_, false) => .error (.nameTaken t.name)
    | (d, true) => .ok d

end Steps

section OneTemplate

variable {outside : List Module} {d d' : MakerDictionary} {serial : Nat} {t : Template}
  {us ts : List Template}

theorem names_extended :
    (d.extended outside serial ts).names = d.names ++ (builtMakers outside ts).keys := by
  rw [names, extended, Keyed.keys, List.map_append, ← keys_builtEntries serial ts]
  rfl

theorem extended_append : (d.extended outside serial us).extended outside (serial + us.length) ts =
    d.extended outside serial (us ++ ts) := by
  rw [extended, extended, extended, builtEntries_append, skippedBy_append, List.append_assoc]

theorem add_of_notMem {name : String} {m : MakerInstance} (h : name.lowerCase ∉ d.names) :
    d.add name m = ({ d with entries := d.entries ++ [(name.lowerCase, m)] }, true) :=
  if_neg fun hhas => h (Keyed.has_iff.1 hhas)

theorem add_of_mem {name : String} {m : MakerInstance} (h : name.lowerCase ∈ d.names) :
    d.add name m = (d, false) :=
  if_pos (Keyed.has_iff.2 h)

theorem step_of_rejected {reason : Rejection} (h : t.build outside = .error (.rejected reason)) :
    d.step outside serial t = .ok (d.extended outside serial [t]) := by
  simp [step, extended, builtEntries, skippedBy, Template.maker?, Template.skip?, h,
    Except.toOption]

theorem step_of_notMem {m : AnyMaker} (h : t.build outside = .ok m)
    (hname : t.name.lowerCase ∉ d.names) :
    d.step outside serial t = .ok (d.extended outside serial [t]) := by
  simp [step, extended, builtEntries, skippedBy, Template.maker?, Template.skip?, h,
    Except.toOption, add_of_notMem hname]

theorem step_of_mem {m : AnyMaker} (h : t.build outside = .ok m)
    (hname : t.name.lowerCase ∈ d.names) :
    d.step outside serial t = .error (.nameTaken t.name) := by
  simp [step, h, add_of_mem hname]

theorem step_of_relativePath {moduleName : String}
    (h : t.build outside = .error (.relativePath moduleName)) :
    d.step outside serial t = .error (.relativePath moduleName) := by
  simp [step, h]

/-- A template does not end a build exactly if its path is not relative and the name it registers,
if any, is free; it then extends the dictionary by what it builds. -/
theorem step_eq_ok_iff :
    d.step outside serial t = .ok d' ↔ ¬ MakerClass.IsRelative t.classPath ∧
      FreshNames outside d.names [t] ∧ d' = d.extended outside serial [t] := by
  rw [freshNames_singleton]
  constructor
  · intro h
    cases hbuild : t.build outside with
    | ok m =>
        have hpath := Template.buildable_or_rejected_iff.1 (.inl ⟨m, hbuild⟩)
        by_cases hname : t.name.lowerCase ∈ d.names
        · exact nomatch h.symm.trans (step_of_mem hbuild hname)
        · cases h.symm.trans (step_of_notMem hbuild hname)
          exact ⟨hpath, fun _ => hname, rfl⟩
    | error fault =>
        cases fault with
        | relativePath moduleName => exact nomatch h.symm.trans (step_of_relativePath hbuild)
        | rejected reason =>
            have hpath := Template.buildable_or_rejected_iff.1 (.inr ⟨reason, hbuild⟩)
            cases h.symm.trans (step_of_rejected hbuild)
            refine ⟨hpath, ?_, rfl⟩
            rintro ⟨m, hm⟩
            exact nomatch hm.symm.trans hbuild
  · rintro ⟨hpath, hname, rfl⟩
    obtain ⟨m, hm⟩ | ⟨reason, hreason⟩ := Template.buildable_or_rejected_iff.2 hpath
    · exact step_of_notMem hm (hname ⟨m, hm⟩)
    · exact step_of_rejected hreason

/-- A template ends a build exactly if its path is relative or if it describes a maker whose name is
taken. -/
theorem step_eq_error_iff {stop : BuildStop} :
    d.step outside serial t = .error stop ↔
      (∃ moduleName, t.build outside = .error (.relativePath moduleName) ∧
          stop = .relativePath moduleName) ∨
        t.Buildable outside ∧ t.name.lowerCase ∈ d.names ∧ stop = .nameTaken t.name := by
  constructor
  · intro h
    cases hbuild : t.build outside with
    | ok m =>
        by_cases hname : t.name.lowerCase ∈ d.names
        · cases h.symm.trans (step_of_mem hbuild hname)
          exact .inr ⟨⟨m, hbuild⟩, hname, rfl⟩
        · exact nomatch h.symm.trans (step_of_notMem hbuild hname)
    | error fault =>
        cases fault with
        | relativePath moduleName =>
            cases h.symm.trans (step_of_relativePath hbuild)
            exact .inl ⟨moduleName, rfl, rfl⟩
        | rejected reason => exact nomatch h.symm.trans (step_of_rejected hbuild)
  · rintro (⟨moduleName, hbuild, rfl⟩ | ⟨⟨m, hm⟩, hname, rfl⟩)
    · exact step_of_relativePath hbuild
    · exact step_of_mem hm hname

end OneTemplate

/-! ### All templates -/

/-- The dictionary after a build, and why the build ended early. -/
def outcome (outside : List Module) (d : MakerDictionary) (serial : Nat) (ts : List Template) :
    MakerDictionary × Option BuildStop :=
  ((d.buildAll outside serial ts).1, (d.buildAll outside serial ts).2.2)

section AllTemplates

variable {outside : List Module} {d d' : MakerDictionary} {serial : Nat} {ts : List Template}

theorem outcome_nil (d : MakerDictionary) (serial : Nat) :
    d.outcome outside serial [] = (d, none) :=
  rfl

theorem outcome_cons (outside : List Module) (d : MakerDictionary) (serial : Nat) (t : Template)
    (ts : List Template) :
    d.outcome outside serial (t :: ts) =
      match d.step outside serial t with
      | .error stop => (d, some stop)
      | .ok d' => d'.outcome outside (serial + 1) ts := by
  rw [outcome, buildAll, step]
  cases hbuild : t.build outside with
  | error fault => cases fault <;> rfl
  | ok m =>
      by_cases hname : t.name.lowerCase ∈ d.names
      · simp only [add_of_mem hname]
      · simp only [add_of_notMem hname]
        rfl

/-- A build goes through all templates exactly if no path is relative and every maker has a name of
its own; it then extends the dictionary by what the templates build. -/
theorem outcome_eq_none_iff :
    d.outcome outside serial ts = (d', none) ↔ (∀ t ∈ ts, ¬ MakerClass.IsRelative t.classPath) ∧
      FreshNames outside d.names ts ∧ d' = d.extended outside serial ts := by
  induction ts generalizing d serial with
  | nil =>
      have hd : d.extended outside serial [] = d := by
        rw [extended]
        exact congrArg (MakerDictionary.mk · d.skipped) (List.append_nil d.entries)
      rw [outcome_nil, hd]
      exact ⟨fun h => ⟨nofun, ⟨.nil, nofun⟩, (congrArg Prod.fst h).symm⟩,
        fun ⟨_, _, h⟩ => by rw [h]⟩
  | cons t ts ih =>
      rw [List.forall_mem_cons, ← List.singleton_append, freshNames_append, ← extended_append]
      cases hstep : d.step outside serial t with
      | error stop =>
          rw [List.singleton_append, outcome_cons, hstep]
          constructor
          · exact fun h => nomatch h
          · rintro ⟨⟨hpath, -⟩, ⟨hname, -⟩, -⟩
            exact nomatch hstep.symm.trans (step_eq_ok_iff.2 ⟨hpath, hname, rfl⟩)
      | ok r =>
          obtain ⟨hpath, hname, rfl⟩ := step_eq_ok_iff.1 hstep
          rw [List.singleton_append, outcome_cons, hstep]
          dsimp only
          rw [ih, names_extended]
          exact ⟨fun ⟨hpaths, hnames, h⟩ => ⟨⟨hpath, hpaths⟩, ⟨hname, hnames⟩, h⟩,
            fun ⟨⟨_, hpaths⟩, ⟨_, hnames⟩, h⟩ => ⟨hpaths, hnames, h⟩⟩

/-- A build ends early exactly if a template ends it behind templates that do not; the dictionary
then holds what those have built. -/
theorem outcome_eq_some_iff {stop : BuildStop} :
    d.outcome outside serial ts = (d', some stop) ↔ ∃ before t after, ts = before ++ t :: after ∧
      d.outcome outside serial before = (d', none) ∧
      d'.step outside (serial + before.length) t = .error stop := by
  constructor
  · intro h
    induction ts generalizing d serial with
    | nil => exact nomatch h
    | cons t ts ih =>
        rw [outcome_cons] at h
        cases hstep : d.step outside serial t with
        | error stop' =>
            rw [hstep] at h
            injection h with hd hstop
            injection hstop with hstop
            subst hd hstop
            exact ⟨[], t, ts, rfl, rfl, hstep⟩
        | ok r =>
            rw [hstep] at h
            obtain ⟨before, u, after, rfl, hbefore, hu⟩ := ih h
            refine ⟨t :: before, u, after, rfl, ?_, ?_⟩
            · rw [outcome_cons, hstep]
              exact hbefore
            · rwa [List.length_cons, Nat.add_comm before.length, ← Nat.add_assoc]
  · rintro ⟨before, t, after, rfl, hbefore, hstep⟩
    induction before generalizing d serial with
    | nil =>
        obtain rfl : d = d' := congrArg Prod.fst hbefore
        rw [List.length_nil, Nat.add_zero] at hstep
        rw [List.nil_append, outcome_cons, hstep]
    | cons u before ih =>
        rw [outcome_cons] at hbefore
        rw [List.cons_append, outcome_cons]
        cases hu : d.step outside serial u with
        | error stop' =>
            rw [hu] at hbefore
            exact nomatch hbefore
        | ok r =>
            rw [hu] at hbefore
            rw [List.length_cons, Nat.add_comm before.length, ← Nat.add_assoc] at hstep
            exact ih hbefore hstep

end AllTemplates

end MakerDictionary

end MetricQuery
