import MetricQuery.Proofs.Keyed
import MetricQuery.Setup.Log

/-!
# Loggers by name

What the operations on a tree of loggers leave under each name, and the names in the order in which
they came up.

## Main results

* `LogTree.logger_put`, `LogTree.logger_ask`, `LogTree.logger_forget` : the logger with a name.
* `LogTree.keys_ask`, `LogTree.keys_forget` : the names.
* `LogTree.get_of_ok`, `LogTree.get_of_error` : a logger that is given a level, and a level that is
  a fault.
-/

namespace MetricQuery

/-! ### Outputs -/

namespace Logger

/-- A logger is left with an output. -/
theorem hasOutput_opened (logger : Logger) : logger.opened.hasOutput = true := by
  rw [opened]
  split
  case isTrue h => exact h
  case isFalse => exact decide_eq_true (Nat.succ_pos _)

@[simp] theorem level_opened (logger : Logger) : logger.opened.level = logger.level := by
  rw [opened]
  split <;> rfl

@[simp] theorem verdicts_opened (logger : Logger) : logger.opened.verdicts = logger.verdicts := by
  rw [opened]
  split <;> rfl

theorem outputs_opened (logger : Logger) :
    logger.opened.outputs = if logger.outputs = 0 then 1 else logger.outputs := by
  rw [opened, hasOutput]
  by_cases h : logger.outputs = 0
  · simp [h]
  · simp [h, Nat.pos_of_ne_zero h]

end Logger

namespace LogTree

variable {tree : LogTree} {name other : String} {logger : Logger}

/-! ### The logger with a name -/

theorem logger_put (tree : LogTree) (name : String) (logger : Logger) (other : String) :
    LogTree.logger (tree.put name logger) other =
      if name = other then logger else tree.logger other := by
  rw [LogTree.logger]
  split
  case isTrue h => rw [h, Keyed.get?_put_self, Option.getD_some]
  case isFalse h => rw [Keyed.get?_put_of_ne (Ne.symm h), LogTree.logger]

/-- Asking for a logger sets none up. -/
@[simp] theorem logger_ask (tree : LogTree) (name other : String) :
    (tree.ask name).logger other = tree.logger other := by
  rw [ask]
  split
  · rfl
  · rw [LogTree.logger, Keyed.get?_append, LogTree.logger]
    cases tree.get? other with
    | some logger => rfl
    | none =>
        rw [Option.none_or, Keyed.get?, List.find?_singleton]
        split <;> rfl

@[simp] theorem logger_forget (tree : LogTree) (name : String) :
    tree.forget.logger name = (tree.logger name).cleared := by
  have hget : tree.forget.get? name = (tree.get? name).map Logger.cleared :=
    Keyed.get?_map Logger.cleared tree name
  rw [LogTree.logger, hget, LogTree.logger]
  cases tree.get? name <;> rfl

/-! ### The names -/

theorem keys_ask (tree : LogTree) (name : String) :
    (tree.ask name).keys = tree.keys ++ if tree.keys.any (· == name) then [] else [name] := by
  have hhas : tree.has name = tree.keys.any (· == name) := by
    rw [Keyed.has, Keyed.keys, List.any_map]
    rfl
  rw [ask, hhas]
  cases tree.keys.any (· == name) with
  | true => exact (List.append_nil _).symm
  | false => exact List.map_append

@[simp] theorem keys_forget (tree : LogTree) : tree.forget.keys = tree.keys := by
  rw [forget, Keyed.keys, List.map_map]
  rfl

/-! ### Loggers that are given a level -/

section Get

variable {settings : Except Settings.LoadFault Settings} {level : Datum} {l : Int}
  {fault : LogFault}

theorem get_of_ok (h : resolveLevel settings level = .ok l) (tree : LogTree) (name : String) :
    tree.get settings name level =
      (forget (tree.put (canonical name) ((tree.logger (canonical name)).setUp l)),
        .ok ((tree.logger (canonical name)).setUp l).cleared) := by
  rw [get, h]

theorem get_of_error (h : resolveLevel settings level = .error fault) (tree : LogTree)
    (name : String) :
    tree.get settings name level =
      (tree.put (canonical name) (tree.logger (canonical name)).opened, .error fault) := by
  rw [get, h]

/-- A logger is set up only with a level that is none of the faults. -/
theorem exists_of_get_eq_ok (h : (tree.get settings name level).2 = .ok logger) :
    ∃ l, resolveLevel settings level = .ok l := by
  cases hlevel : resolveLevel settings level with
  | ok l => exact ⟨l, rfl⟩
  | error fault =>
      rw [get_of_error hlevel] at h
      exact nomatch h

end Get

end LogTree

end MetricQuery
