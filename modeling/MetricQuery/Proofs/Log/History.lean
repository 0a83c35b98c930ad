import Mathlib.Data.List.Induction
import MetricQuery.Proofs.Log.Chain
import MetricQuery.Proofs.Log.Level
import MetricQuery.Proofs.Members

/-!
# Loggers over runs of calls

Loggers are asked for, given levels, and records go through them, in any order.  Each logger that
was given a level has one output and the level that it was given last, and the loggers stand in the
order of the first calls on them.

A logger that is named as the root begins takes over no loggers that are older than it.  If it is
given a level all the same, it has come late for them (`LogTree.ComesLate`); where none does so,
a chain leaves nothing out (`LogTree.straight_run`).

## Main definitions

* `LogTree.Call`, `LogTree.run` : a call, and the loggers after several calls.
* `LogTree.opened`, `LogTree.lastLevel` : whether a logger was given a level, and the last one.
* `LogTree.ComesLate` : a logger that came up too late to take over one below it.

## Main results

* `LogTree.level_apply`, `LogTree.outputs_apply`, `LogTree.keys_apply` : what a call does.
* `LogTree.level_run`, `LogTree.outputs_run`, `LogTree.keys_run` : the loggers after a run.
* `LogTree.straight_run` : the names that are straight after a run.
-/

namespace MetricQuery.LogTree

/-! ### Calls -/

/-- A call: a logger is given an output and a level, or a record goes through it. -/
inductive Call
  | get (name : String) (level : Datum)
  | log (name : String) (level : Int) (text : String)

namespace Call

/-- The name under which the logger of a call is kept. -/
def name : Call → String
  | get name _ | log name _ _ => canonical name

/-- The loggers after a call. -/
def apply (settings : Except Settings.LoadFault Settings) (tree : LogTree) : Call → LogTree
  | get name level => (tree.get settings name level).1
  | log name level text => (tree.log name level text).1

/-- Whether a call gives an output and a level to the logger with a name. -/
def opens (name : String) : Call → Bool
  | get given _ => canonical given == name
  | log _ _ _ => false

/-- The level that a call gives to the logger with a name. -/
def level? (settings : Except Settings.LoadFault Settings) (name : String) : Call → Option Int
  | get given level =>
    if canonical given = name then (resolveLevel settings level).toOption else none
  | log _ _ _ => none

end Call

/-- The loggers after several calls. -/
def run (settings : Except Settings.LoadFault Settings) (calls : List Call) : LogTree :=
  calls.foldl (Call.apply settings) initial

/-- Whether some call has given an output and a level to the logger with a name. -/
def opened (name : String) (calls : List Call) : Bool :=
  calls.any (·.opens name)

/-- The level that a logger was given last. -/
def lastLevel (settings : Except Settings.LoadFault Settings) (name : String)
    (calls : List Call) : Option Int :=
  (calls.filterMap (·.level? settings name)).getLast?

/-- A logger above a name is given an output and a level, but it came up after a logger below it on
the way. -/
def ComesLate (calls : List Call) (name upper : String) : Prop :=
  opened upper calls = true ∧
    ∃ call ∈ calls.takeWhile (·.name != upper),
      (call.name = name ∨ IsAbove call.name name) ∧ IsAbove upper call.name

variable {settings : Except Settings.LoadFault Settings} {tree : LogTree} {call : Call}
  {calls : List Call} {name : String} {l : Int}

theorem run_concat (settings : Except Settings.LoadFault Settings) (calls : List Call)
    (call : Call) : run settings (calls ++ [call]) = call.apply settings (run settings calls) :=
  List.foldl_concat ..

/-! ### What a call does -/

section Apply

variable {given : String} {datum : Datum} {fault : LogFault}

/-- A logger that is given a level has an output, and no logger keeps its verdicts. -/
theorem logger_get_of_ok (h : resolveLevel settings datum = .ok l) (tree : LogTree)
    (given name : String) :
    ((Call.get given datum).apply settings tree).logger name =
      (if canonical given = name then (tree.logger name).setUp l
        else tree.logger name).cleared := by
  rw [Call.apply, get_of_ok h, logger_forget, logger_put]
  split
  case isTrue hname => rw [hname]
  case isFalse => rfl

/-- A logger has an output even if its level is a fault. -/
theorem logger_get_of_error (h : resolveLevel settings datum = .error fault) (tree : LogTree)
    (given name : String) :
    ((Call.get given datum).apply settings tree).logger name =
      if canonical given = name then (tree.logger name).opened else tree.logger name := by
  rw [Call.apply, get_of_error h, logger_put]
  split
  case isTrue hname => rw [hname]
  case isFalse => rfl

/-- A logger keeps the verdict on a record. -/
theorem logger_log (settings : Except Settings.LoadFault Settings) (tree : LogTree)
    (given : String) (level : Int) (text name : String) :
    ((Call.log given level text).apply settings tree).logger name =
      if canonical given = name then
        { tree.logger name with
          verdicts := (tree.logger name).verdicts.put level ((tree.ask name).writes name level) }
      else tree.logger name := by
  rw [Call.apply, log, logger_put, logger_ask, logger_ask]
  split
  case isTrue hname => rw [hname]
  case isFalse => rfl

end Apply

theorem level_apply (settings : Except Settings.LoadFault Settings) (tree : LogTree) (call : Call)
    (name : String) :
    ((call.apply settings tree).logger name).level =
      (call.level? settings name).getD (tree.logger name).level := by
  cases call with
  | get given datum =>
      rw [Call.level?]
      cases hlevel : resolveLevel settings datum with
      | ok l =>
          rw [logger_get_of_ok hlevel]
          split <;> rfl
      | error fault =>
          rw [logger_get_of_error hlevel]
          split
          · exact Logger.level_opened _
          · rfl
  | log given level text =>
      rw [logger_log]
      split <;> rfl

theorem outputs_apply (settings : Except Settings.LoadFault Settings) (tree : LogTree)
    (call : Call) (name : String) :
    ((call.apply settings tree).logger name).outputs =
      if call.opens name then (tree.logger name).opened.outputs
      else (tree.logger name).outputs := by
  cases call with
  | get given datum =>
      simp only [Call.opens, beq_iff_eq]
      cases hlevel : resolveLevel settings datum with
      | ok l =>
          rw [logger_get_of_ok hlevel]
          split <;> rfl
      | error fault =>
          rw [logger_get_of_error hlevel]
          split <;> rfl
  | log given level text =>
      rw [logger_log]
      split <;> rfl

/-- A new logger comes last. -/
theorem keys_apply (settings : Except Settings.LoadFault Settings) (tree : LogTree)
    (call : Call) :
    (call.apply settings tree).keys =
      tree.keys ++ if tree.keys.any (· == call.name) then [] else [call.name] := by
  cases call with
  | get given level =>
      rw [Call.apply, Call.name]
      cases hlevel : resolveLevel settings level with
      | ok l => rw [get_of_ok hlevel, keys_forget, Keyed.keys_put]
      | error fault => rw [get_of_error hlevel, Keyed.keys_put]
  | log given l text =>
      have hasked : (tree.ask (canonical given)).keys.any (· == canonical given) = true := by
        rw [keys_ask, List.any_append]
        cases tree.keys.any (· == canonical given) <;> simp
      rw [Call.apply, Call.name, log, Keyed.keys_put, if_pos hasked, List.append_nil, keys_ask]

/-- A call that does not open a logger gives it no level. -/
theorem Call.level?_eq_none (settings : Except Settings.LoadFault Settings)
    (h : ¬call.opens name = true) : call.level? settings name = none := by
  cases call with
  | get given datum => exact if_neg fun hname => h (beq_iff_eq.2 hname)
  | log given level text => rfl

/-- A logger that is set up stays so. -/
theorem isSet_apply (settings : Except Settings.LoadFault Settings) (call : Call)
    (h : tree.isSet name = true) : (call.apply settings tree).isSet name = true := by
  rw [isSet_iff, level_apply, outputs_apply]
  by_cases hopens : call.opens name = true
  · refine .inr ?_
    rw [if_pos hopens, Logger.outputs_opened]
    split
    · exact Nat.one_ne_zero
    · assumption
  · rw [if_neg hopens, Call.level?_eq_none settings hopens]
    exact isSet_iff.1 h

theorem Straight.of_apply (h : (call.apply settings tree).Straight name) : tree.Straight name :=
  h.of_prefix_keys (keys_apply settings tree call ▸ List.prefix_append ..)
    fun _ => isSet_apply settings call

/-! ### Outputs, levels and names after a run -/

theorem logger_initial (name : String) :
    initial.logger name = if name = "" then ⟨30, 0, []⟩ else .bare := by
  rw [LogTree.logger, initial, Keyed.get?, List.find?_singleton]
  by_cases hname : name = ""
  · simp [hname]
  · simp [hname, Ne.symm hname]

/-- A logger that was given a level has one output, any other none. -/
theorem outputs_run (settings : Except Settings.LoadFault Settings) (calls : List Call)
    (name : String) :
    ((run settings calls).logger name).outputs = if opened name calls then 1 else 0 := by
  induction calls using List.reverseRecOn with
  | nil =>
      rw [run, List.foldl_nil, logger_initial]
      split <;> rfl
  | append_singleton calls call ih =>
      have hopened : opened name (calls ++ [call]) = (opened name calls || call.opens name) := by
        simp [opened]
      rw [run_concat, outputs_apply, Logger.outputs_opened, ih, hopened]
      cases opened name calls <;> cases call.opens name <;> rfl

theorem lastLevel_concat (settings : Except Settings.LoadFault Settings) (name : String)
    (calls : List Call) (call : Call) :
    lastLevel settings name (calls ++ [call]) =
      (call.level? settings name).or (lastLevel settings name calls) := by
  rw [lastLevel, List.filterMap_append, List.getLast?_append, lastLevel, List.filterMap_cons]
  cases call.level? settings name <;> rfl

/-- A logger has the level that it was given last; before that it has none, except for the root. -/
theorem level_run (settings : Except Settings.LoadFault Settings) (calls : List Call)
    (name : String) :
    ((run settings calls).logger name).level =
      (lastLevel settings name calls).getD (if name = "" then 30 else 0) := by
  induction calls using List.reverseRecOn with
  | nil =>
      rw [run, List.foldl_nil, logger_initial]
      split <;> rfl
  | append_singleton calls call ih =>
      rw [run_concat, level_apply, ih, lastLevel_concat]
      cases call.level? settings name <;> rfl

/-- Loggers that are set up have been opened, except for the root. -/
theorem opened_of_isSet (hname : name ≠ "") (h : (run settings calls).isSet name = true) :
    opened name calls = true := by
  by_contra hopened
  have hnone : lastLevel settings name calls = none := by
    rw [lastLevel, List.getLast?_eq_none_iff, List.filterMap_eq_nil_iff]
    intro call hcall
    refine Call.level?_eq_none settings fun hopens => hopened ?_
    exact List.any_eq_true.2 ⟨call, hcall, hopens⟩
  rw [isSet_iff, level_run, outputs_run, hnone, if_neg hname, if_neg hopened] at h
  simp at h

/-- The names come up in the order of the first calls on them, behind the root. -/
theorem keys_run (settings : Except Settings.LoadFault Settings) (calls : List Call) :
    (run settings calls).keys = distinct ("" :: calls.map Call.name) := by
  induction calls using List.reverseRecOn with
  | nil => rfl
  | append_singleton calls call ih =>
      rw [run_concat, keys_apply, ih, any_distinct, List.map_append, List.map_singleton,
        ← List.cons_append, distinct_concat]

/-- A name is straight unless a logger above it has come late. -/
theorem straight_run (settings : Except Settings.LoadFault Settings) (hname : Undoubled name)
    (hlate : ∀ upper, upper.toList <+: rootName.toList → ¬ComesLate calls name upper) :
    (run settings calls).Straight name := by
  intro upper hupper hset hroot lower hlower hlength
  have hupperAbove := (mem_above_iff hname).1 hupper
  by_contra holder
  rw [Bool.not_eq_false, isOlder, List.contains_iff_mem, keys_run, mem_takeWhile_distinct,
    List.takeWhile_cons_of_pos (by simpa using Ne.symm hupperAbove.1)] at holder
  have hlowerName : lower ≠ "" := by
    rintro rfl
    simp at hlength
  have hearlier := (List.mem_cons.1 holder).resolve_left hlowerName
  rw [List.takeWhile_map, List.mem_map] at hearlier
  obtain ⟨call, hcall, rfl⟩ := hearlier
  refine hlate upper hroot ⟨opened_of_isSet hupperAbove.1 hset, call, hcall, ?_⟩
  rcases List.mem_cons.1 hlower with hsame | hlower
  · exact ⟨.inl hsame, hsame ▸ hupperAbove⟩
  · exact ⟨.inr ((mem_above_iff hname).1 hlower), isAbove_of_length_lt hname hlower hupper hlength⟩

end MetricQuery.LogTree
