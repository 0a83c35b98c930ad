import MetricQuery.Proofs.Config.Entries
import MetricQuery.Proofs.Log.Tree

/-!
# Names of levels

A logger may be given its level by name, in any letter case; where no name or an empty one is given,
the settings name the level.  A name that is no level stands for the usual level, except for two
reserved names, which stand for something else and are faults.  So a logger is set up exactly if the
name is not reserved (`LogTree.get_named_iff`).

## Main definitions

* `LogTree.reserved` : the names that are faults.
* `LogTree.namedLevel` : the level of a name that is not reserved.
* `LogTree.Names` : the name by which a level is given.

## Main results

* `LogTree.resolveName_eq_ok_iff`, `LogTree.resolveLevel_of_mem_levels` : what a name stands for.
* `LogTree.get_named_iff` : the loggers that are given a level by name.
-/

namespace MetricQuery.LogTree

/-- The names, in upper case, that stand for something that is no level. -/
def reserved : List String :=
  ["BASIC_FORMAT", "_STYLES"]

/-- The level that has a name, in any letter case; the usual one if none has it. -/
def namedLevel (name : String) : Int :=
  (levels.get? name.upperCase).getD usualLevel

/-- The name by which a level is given: a text that is not empty, else the name in the settings. -/
inductive Names : Except Settings.LoadFault Settings → Datum → String → Prop
  | given {settings : Except Settings.LoadFault Settings} {name : String} (h : name ≠ "") :
    Names settings (.text name) name
  | missing (settings : Settings) : Names (.ok settings) .null settings.logLevel
  | empty (settings : Settings) : Names (.ok settings) (.text "") settings.logLevel

variable {settings : Except Settings.LoadFault Settings} {level : Datum} {name : String} {l : Int}

/-! ### What a name stands for -/

/-- No level has a reserved name. -/
theorem get?_levels_of_reserved (h : name ∈ reserved) : levels.get? name = none := by
  obtain rfl | rfl : name = "BASIC_FORMAT" ∨ name = "_STYLES" := by simpa [reserved] using h
  · rfl
  · rfl

theorem resolveName_eq_ok_iff :
    resolveName name = .ok l ↔ name.upperCase ∉ reserved ∧ namedLevel name = l := by
  rw [resolveName, namedLevel]
  cases hlevel : levels.get? name.upperCase with
  | some level =>
      have hname : name.upperCase ∉ reserved := fun h =>
        nomatch (get?_levels_of_reserved h).symm.trans hlevel
      simp [hname]
  | none =>
      by_cases hlayout : name.upperCase = "BASIC_FORMAT"
      · simp [hlayout, reserved]
      · by_cases hstyles : name.upperCase = "_STYLES"
        · simp [hstyles, reserved]
        · simp [hlayout, hstyles, reserved]

/-- A level that is given by name is resolved by name. -/
theorem Names.resolveLevel_eq (h : Names settings level name) :
    resolveLevel settings level = resolveName name := by
  cases h with
  | given hname =>
      have hfull : (Datum.text name).isEmpty = false := by
        rw [← Bool.not_eq_true, Datum.isEmpty_scalar_iff]
        rintro ⟨⟩
        exact hname rfl
      simp only [resolveLevel, hfull]
      rfl
  | missing settings => rfl
  | empty settings => rfl

/-- The name of a level stands for the level. -/
theorem resolveLevel_of_mem_levels (settings : Except Settings.LoadFault Settings)
    (h : (name.upperCase, l) ∈ levels) : resolveLevel settings (.text name) = .ok l := by
  have hlevel : levels.get? name.upperCase = some l :=
    (Keyed.get?_eq_some_iff (by decide)).2 h
  have hname : name ≠ "" := by
    rintro rfl
    exact nomatch hlevel
  have hreserved : name.upperCase ∉ reserved := fun hreserved =>
    nomatch (get?_levels_of_reserved hreserved).symm.trans hlevel
  rw [(Names.given hname).resolveLevel_eq, resolveName_eq_ok_iff]
  exact ⟨hreserved, by rw [namedLevel, hlevel, Option.getD_some]⟩

/-! ### Loggers that are given a level by name -/

/-- **An unknown name of a level stands for the usual one**, unless it is reserved.  Let a logger be
asked for with a level that is given by a name.

* The logger is set up exactly if the name, in upper case, is not reserved.
* The logger then has the level with the name, or the usual one if no level has it; it has an
  output, and it is the one that the tree holds.
* A reserved name is a fault, which shows what the name stands for. -/
theorem get_named_iff (tree : LogTree) (asked : String) (h : Names settings level name) :
    ((∃ logger, (tree.get settings asked level).2 = .ok logger) ↔ name.upperCase ∉ reserved) ∧
    (∀ logger, (tree.get settings asked level).2 = .ok logger →
      logger.level = namedLevel name ∧ logger.hasOutput = true ∧
        (tree.get settings asked level).1.logger (canonical asked) = logger) ∧
    (name.upperCase = "BASIC_FORMAT" →
      (tree.get settings asked level).2 = .error (.unknownLevel basicLayout)) ∧
    (name.upperCase = "_STYLES" →
      (tree.get settings asked level).2 = .error (.notLevel styleTable)) := by
  have hlevel := h.resolveLevel_eq
  refine ⟨⟨?_, fun hname => ?_⟩, fun logger hlogger => ?_, fun hname => ?_, fun hname => ?_⟩
  · rintro ⟨logger, hlogger⟩
    obtain ⟨l, hl⟩ := exists_of_get_eq_ok hlogger
    exact (resolveName_eq_ok_iff.1 (hlevel.symm.trans hl)).1
  · have hl := hlevel.trans (resolveName_eq_ok_iff.2 ⟨hname, rfl⟩)
    rw [get_of_ok hl]
    exact ⟨_, rfl⟩
  · obtain ⟨l, hl⟩ := exists_of_get_eq_ok hlogger
    rw [get_of_ok hl] at hlogger ⊢
    obtain rfl := Except.ok.inj hlogger
    refine ⟨(resolveName_eq_ok_iff.1 (hlevel.symm.trans hl)).2.symm, ?_, ?_⟩
    · exact (tree.logger (canonical asked)).hasOutput_opened
    · rw [logger_forget, logger_put, if_pos rfl]
  · have hfault : resolveName name = .error (.unknownLevel basicLayout) := by
      rw [resolveName, hname]
      rfl
    rw [get_of_error (hlevel.trans hfault)]
  · have hfault : resolveName name = .error (.notLevel styleTable) := by
      rw [resolveName, hname]
      rfl
    rw [get_of_error (hlevel.trans hfault)]

/-- Levels by name, by an unknown name, and by the name in the settings. -/
theorem get_named_iff_chatty :
    let settings : Settings := ⟨"m.yml", "d.yml", "UTC", -1, "json", "Warn"⟩
    (∃ logger, (initial.get (.ok settings) "quiet" (.text "error")).2 = .ok logger ∧
      logger.level = 40) ∧
    (∃ logger, (initial.get (.ok settings) "bogus" (.text "chatty")).2 = .ok logger ∧
      logger.level = 20) ∧
    ∃ logger, (initial.get (.ok settings) "plain" .null).2 = .ok logger ∧ logger.level = 30 := by
  intro settings
  have herror : Names (.ok settings) (.text "error") "error" := .given (by decide)
  have hchatty : Names (.ok settings) (.text "chatty") "chatty" := .given (by decide)
  refine ⟨?_, ?_, ?_⟩
  · obtain ⟨hset, hlevel, -⟩ := get_named_iff initial "quiet" herror
    obtain ⟨logger, hlogger⟩ := hset.2 (by decide)
    exact ⟨logger, hlogger, (hlevel logger hlogger).1⟩
  · obtain ⟨hset, hlevel, -⟩ := get_named_iff initial "bogus" hchatty
    obtain ⟨logger, hlogger⟩ := hset.2 (by decide)
    exact ⟨logger, hlogger, (hlevel logger hlogger).1⟩
  · obtain ⟨hset, hlevel, -⟩ := get_named_iff initial "plain" (.missing settings)
    obtain ⟨logger, hlogger⟩ := hset.2 (by decide)
    exact ⟨logger, hlogger, (hlevel logger hlogger).1.trans (by decide)⟩

/-- The name of the layout of records is unknown as that of a level, and yet it is a fault. -/
theorem get_fails_basicFormat :
    let settings : Settings := ⟨"m.yml", "d.yml", "UTC", -1, "json", "INFO"⟩
    levels.get? "basic_format".upperCase = none ∧
    (initial.get (.ok settings) "bogus" (.text "basic_format")).2 =
      .error (.unknownLevel basicLayout) :=
  ⟨rfl, rfl⟩

end MetricQuery.LogTree
