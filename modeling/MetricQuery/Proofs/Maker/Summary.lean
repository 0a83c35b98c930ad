import MetricQuery.Proofs.Distinct
import MetricQuery.Proofs.Maker.Dictionary

/-!
# The summary of a build

A build that goes through leaves one warning for each template that it skips and ends with a summary
of two numbers: the makers of the dictionary and the entries of the record of skipped templates.
Makers and warnings account for every template.  The record is kept by name, though, so skipped
templates that share a name have one entry, and the summary counts them once
(`MakerDictionary.buildAll_accounts_iff`).

## Main definitions

* `skippedNames` : the names of the templates that are skipped.
* `MakerDictionary.skipNotice` : the warning about a skipped template.

## Main results

* `MakerDictionary.notices_of_eq_none` : the notices of a build that goes through.
* `length_builtEntries_add` : a template is built or skipped.
* `MakerDictionary.buildAll_accounts_iff` : what the summary accounts for.
-/

namespace MetricQuery

/-! ### Skipped templates -/

/-- The names of the templates that are skipped, in their order. -/
def skippedNames (outside : List Module) (ts : List Template) : List String :=
  (ts.filterMap (Template.skip? outside)).map (·.1)

namespace Template

variable {outside : List Module} {t : Template}

theorem skip?_of_rejected {reason : Rejection} (h : t.build outside = .error (.rejected reason)) :
    t.skip? outside = some (t.name, reason.text) := by
  rw [skip?, h]

theorem skip?_of_buildable (h : t.Buildable outside) : t.skip? outside = none := by
  obtain ⟨m, hm⟩ := h
  rw [skip?, hm]

theorem map_skip?_eq_some_iff {name : String} :
    (t.skip? outside).map (·.1) = some name ↔ t.Rejected outside ∧ t.name = name := by
  rw [skip?, Rejected]
  cases t.build outside with
  | ok m => simp
  | error fault => cases fault <;> simp

end Template

section Skipped

variable {outside : List Module} {ts : List Template}

theorem nodup_skippedNames_iff :
    (skippedNames outside ts).Nodup ↔
      ts.Pairwise fun t u => t.Rejected outside → u.Rejected outside → t.name ≠ u.name := by
  rw [skippedNames, List.map_filterMap, List.Nodup, List.pairwise_filterMap]
  simp only [Template.map_skip?_eq_some_iff]
  refine List.Pairwise.iff fun t u => ?_
  constructor
  · exact fun h ht hu => h _ ⟨ht, rfl⟩ _ ⟨hu, rfl⟩
  · rintro h _ ⟨ht, rfl⟩ _ ⟨hu, rfl⟩
    exact h ht hu

/-- A template whose path is not relative is built or skipped, and not both. -/
theorem length_builtEntries_add (serial : Nat)
    (hts : ∀ t ∈ ts, ¬ MakerClass.IsRelative t.classPath) :
    (builtEntries outside serial ts).length + (ts.filterMap (Template.skip? outside)).length =
      ts.length := by
  induction ts generalizing serial with
  | nil => rfl
  | cons t ts ih =>
      obtain ⟨ht, hts⟩ := List.forall_mem_cons.1 hts
      have hrest := ih (serial + 1) hts
      rw [← List.singleton_append, builtEntries_append, List.length_append, List.filterMap_append,
        List.length_append, List.length_append]
      have hone : (builtEntries outside serial [t]).length +
          ([t].filterMap (Template.skip? outside)).length = 1 := by
        have ht : t.Buildable outside ∨ t.Rejected outside :=
          Template.buildable_or_rejected_iff.2 ht
        obtain ⟨m, hm⟩ | ⟨reason, hreason⟩ := ht
        · simp [builtEntries, Template.maker?, Template.skip?_of_buildable ⟨m, hm⟩, hm,
            Except.toOption]
        · simp [builtEntries, Template.maker?, Template.skip?_of_rejected hreason, hreason,
            Except.toOption]
      rw [List.length_singleton]
      omega

end Skipped

namespace MakerDictionary

/-! ### Notices -/

/-- The warning about a skipped template. -/
def skipNotice (entry : String × String) : Notice :=
  .templateSkipped entry.1 entry.2

section Notices

variable {outside : List Module} {d d' : MakerDictionary} {serial : Nat} {t : Template}
  {ts : List Template}

theorem notices_cons (h : d.step outside serial t = .ok d') :
    (d.buildAll outside serial (t :: ts)).2.1 =
      ((t.skip? outside).map skipNotice).toList ++ (d'.buildAll outside (serial + 1) ts).2.1 := by
  rw [step] at h
  rw [buildAll, Template.skip?]
  cases hbuild : t.build outside with
  | error fault =>
      cases fault with
      | relativePath moduleName => simp [hbuild] at h
      | rejected reason =>
          rw [hbuild] at h
          obtain rfl := Except.ok.inj h
          rfl
  | ok m =>
      by_cases hname : t.name.lowerCase ∈ d.names
      · simp [hbuild, add_of_mem hname] at h
      · simp only [hbuild, add_of_notMem hname] at h
        obtain rfl := Except.ok.inj h
        simp only [add_of_notMem hname]
        rfl

/-- A build that goes through warns of each template that it skips, in their order, and then gives
the two numbers of the summary. -/
theorem notices_of_eq_none (h : (d.buildAll outside serial ts).2.2 = none) :
    (d.buildAll outside serial ts).2.1 = (ts.filterMap (Template.skip? outside)).map skipNotice ++
      [.makersBuilt (d.buildAll outside serial ts).1.entries.length
        (d.buildAll outside serial ts).1.skipped.length] := by
  induction ts generalizing d serial with
  | nil => rfl
  | cons t ts ih =>
      have houtcome := outcome_cons outside d serial t ts
      cases hstep : d.step outside serial t with
      | error stop =>
          rw [hstep] at houtcome
          have hstop : (d.buildAll outside serial (t :: ts)).2.2 = some stop :=
            congrArg Prod.snd houtcome
          exact nomatch h.symm.trans hstop
      | ok r =>
          rw [hstep] at houtcome
          dsimp only at houtcome
          rw [outcome, outcome, Prod.mk.injEq] at houtcome
          obtain ⟨hdictionary, hstop⟩ := houtcome
          rw [notices_cons hstep, ih (hstop.symm.trans h), hdictionary, ← List.append_assoc,
            List.filterMap_cons]
          cases t.skip? outside <;> rfl

end Notices

/-- **What a summary accounts for.**  A build from the empty dictionary that goes through leaves one
warning for each template that it skips, and then the summary.  Makers and warnings together are as
many as the templates.  The record of skipped templates has one entry for each of their names, so it
has as many entries as there are warnings, and makers and entries are as many as the templates,
exactly if no two skipped templates have the same name. -/
theorem buildAll_accounts_iff {outside : List Module} {serial : Nat} {ts : List Template}
    (h : (empty.buildAll outside serial ts).2.2 = none) :
    let d := (empty.buildAll outside serial ts).1
    let notices := (empty.buildAll outside serial ts).2.1
    let warnings := notices.filter fun notice => notice.severity = .warning
    notices = warnings ++ [.makersBuilt d.entries.length d.skipped.length] ∧
    d.entries.length + warnings.length = ts.length ∧
    d.skipped.keys = (skippedNames outside ts).eraseDups ∧
    (d.skipped.length = warnings.length ↔
      ts.Pairwise fun t u => t.Rejected outside → u.Rejected outside → t.name ≠ u.name) ∧
    (d.entries.length + d.skipped.length = ts.length ↔
      ts.Pairwise fun t u => t.Rejected outside → u.Rejected outside → t.name ≠ u.name) := by
  intro d notices warnings
  have hd : d = empty.extended outside serial ts := buildAll_of_eq_none h
  have hnotices := notices_of_eq_none h
  have hwarnings : warnings = (ts.filterMap (Template.skip? outside)).map skipNotice := by
    have hall : ∀ n ∈ (ts.filterMap (Template.skip? outside)).map skipNotice,
        n.severity = .warning := by
      intro n hn
      obtain ⟨entry, -, rfl⟩ := List.mem_map.1 hn
      rfl
    simp only [warnings, notices, hnotices, List.filter_append]
    rw [List.filter_eq_self.2 fun n hn => decide_eq_true (hall n hn)]
    exact List.append_nil _
  have hcount : d.entries.length + warnings.length = ts.length := by
    rw [hwarnings, List.length_map, hd]
    exact length_builtEntries_add serial (buildAll_eq_none_iff.1 h).1
  have hkeys : d.skipped.keys = (skippedNames outside ts).eraseDups := by
    rw [hd]
    exact Keyed.keys_ofList (ts.filterMap (Template.skip? outside))
  have hskipped : d.skipped.length = warnings.length ↔
      ts.Pairwise fun t u => t.Rejected outside → u.Rejected outside → t.name ≠ u.name := by
    have hlength : warnings.length = (skippedNames outside ts).length := by
      rw [hwarnings, skippedNames, List.length_map, List.length_map]
    rw [← nodup_skippedNames_iff, ← noRepeats_iff_nodup, ← length_distinct_eq_iff,
      distinct_eq_eraseDups, ← hkeys, hlength, Keyed.keys, List.length_map]
  refine ⟨?_, hcount, hkeys, hskipped, ?_⟩
  · rw [hwarnings]
    exact hnotices
  · rw [← hskipped, ← hcount]
    omega

/-- Two skipped templates with one name are warned of twice and counted once. -/
theorem buildAll_skippedTwice :
    let ts : List Template := [⟨"a", "Foo", []⟩, ⟨"a", "Bar", []⟩]
    let d := (empty.buildAll [] 0 ts).1
    let notices := (empty.buildAll [] 0 ts).2.1
    let warnings := notices.filter fun notice => notice.severity = .warning
    (empty.buildAll [] 0 ts).2.2 = none ∧ notices.getLast? = some (.makersBuilt 0 1) ∧
      d.entries.length + d.skipped.length ≠ ts.length ∧ d.skipped.length ≠ warnings.length := by
  intro ts d notices warnings
  exact ⟨by rfl, by rfl, by decide, by decide⟩

/-- A skipped template may share its name with a built one. -/
theorem buildAll_accounts_iff_sharedName :
    let ts : List Template := [⟨"a", "Foo", []⟩, ⟨"A", "CountMaker", []⟩, ⟨"A", "Bar", []⟩]
    (empty.buildAll [] 0 ts).2.2 = none ∧ (empty.buildAll [] 0 ts).1.names = ["a"] ∧
      (empty.buildAll [] 0 ts).1.skipped.length = 2 := by
  intro ts
  have h : (empty.buildAll [] 0 ts).2.2 = none := by rfl
  obtain ⟨-, -, hkeys, -⟩ := buildAll_accounts_iff h
  have hnames : (skippedNames [] ts).eraseDups = ["a", "A"] := by rfl
  rw [hnames] at hkeys
  exact ⟨h, by rfl, (List.length_map _).symm.trans (congrArg List.length hkeys)⟩

end MakerDictionary

end MetricQuery
