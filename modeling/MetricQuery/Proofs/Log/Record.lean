import MetricQuery.Proofs.Log.History

/-!
# Records over runs of calls

What a record is written as is settled by the calls before it: it is written once for each logger on
the way from its own one up to the root that was given a level, if it reaches the level of the
nearest logger on the way that has one.

The loggers keep their verdicts on records, and what comes up later may come between a logger and
the root.  The verdicts stay right all the same (`LogTree.Coherent.apply`): a new logger has no
level, and when a logger is given one, all verdicts are dropped.

Three things are needed.  The level of the record is positive.  No two dots stand side by side in
the name, for else some names above it are not found.  And no logger above it has come late.
Without them a record can be lost (`LogTree.run_misses_records`).

## Main definitions

* `LogTree.Coherent` : verdicts that agree with the levels.

## Main results

* `LogTree.Coherent.apply`, `LogTree.coherent_run` : verdicts after a call and after a run.
* `LogTree.log_run` : what a record is written as after a run.
-/

namespace MetricQuery.LogTree

variable {settings : Except Settings.LoadFault Settings} {tree : LogTree} {call : Call}
  {name : String}

/-! ### Verdicts -/

/-- The verdicts of loggers with straight names agree with the levels on the way up. -/
def Coherent (tree : LogTree) : Prop :=
  ∀ name level written, Undoubled name → tree.Straight name →
    (tree.logger name).verdicts.get? level = some written →
      written = decide (0 < level ∧ tree.nearestLevel (way name) ≤ level)

theorem nearestLevel_ask (tree : LogTree) (asked : String) (names : List String) :
    (tree.ask asked).nearestLevel names = tree.nearestLevel names := by
  simp only [nearestLevel, logger_ask]

/-- Calls that give no level leave the nearest level as it is. -/
theorem nearestLevel_apply (h : ∀ name, call.level? settings name = none) (tree : LogTree)
    (names : List String) :
    (call.apply settings tree).nearestLevel names = tree.nearestLevel names := by
  simp only [nearestLevel, level_apply, h, Option.getD_none]

/-- Whether a record is written is the same with and without a verdict on it. -/
theorem Coherent.writes_ask (hcoherent : tree.Coherent) (hname : Undoubled name)
    (h : tree.Straight name) (asked : String) (level : Int) :
    (tree.ask asked).writes name level =
      decide (0 < level ∧ tree.nearestLevel (way name) ≤ level) := by
  rw [writes, logger_ask]
  cases hverdict : (tree.logger name).verdicts.get? level with
  | some written => exact hcoherent name level written hname h hverdict
  | none => rw [Option.getD_none, nearestLevel_chain hname (h.ask asked), nearestLevel_ask]

theorem coherent_initial : Coherent initial := by
  intro name level written hname hstraight hverdict
  rw [logger_initial] at hverdict
  split at hverdict
  · exact nomatch hverdict
  · exact nomatch hverdict

/-- A call leaves verdicts that agree with the levels. -/
theorem Coherent.apply (hcoherent : tree.Coherent)
    (settings : Except Settings.LoadFault Settings) (call : Call) :
    (call.apply settings tree).Coherent := by
  intro name level written hname hstraight hverdict
  have hold := hstraight.of_apply
  cases call with
  | get given datum =>
      cases hlevel : resolveLevel settings datum with
      | ok l =>
          rw [logger_get_of_ok hlevel] at hverdict
          exact nomatch hverdict
      | error fault =>
          have hkept : (tree.logger name).verdicts.get? level = some written := by
            rw [logger_get_of_error hlevel] at hverdict
            split at hverdict
            · rwa [Logger.verdicts_opened] at hverdict
            · exact hverdict
          have hnone : ∀ n, (Call.get given datum).level? settings n = none := by
            intro n
            rw [Call.level?, hlevel]
            exact ite_self none
          rw [nearestLevel_apply hnone]
          exact hcoherent name level written hname hold hkept
  | log given l text =>
      rw [nearestLevel_apply fun _ => rfl]
      rw [logger_log] at hverdict
      split at hverdict
      · by_cases hl : level = l
        · rw [hl, Keyed.get?_put_self, hcoherent.writes_ask hname hold] at hverdict
          rw [hl]
          exact (Option.some.inj hverdict).symm
        · rw [Keyed.get?_put_of_ne hl] at hverdict
          exact hcoherent name level written hname hold hverdict
      · exact hcoherent name level written hname hold hverdict

theorem coherent_run (settings : Except Settings.LoadFault Settings) (calls : List Call) :
    (run settings calls).Coherent := by
  induction calls using List.reverseRecOn with
  | nil => exact coherent_initial
  | append_singleton calls call ih =>
      rw [run_concat]
      exact ih.apply settings call

/-! ### Records after a run -/

/-- The outputs on a way are counted by the loggers on it that were given a level. -/
theorem outputs_run_names (settings : Except Settings.LoadFault Settings) (calls : List Call)
    (names : List String) :
    (run settings calls).outputs names = names.countP (opened · calls) := by
  induction names with
  | nil => rfl
  | cons name rest ih =>
      rw [outputs, List.foldr_cons, outputs_run, List.countP_cons, Nat.add_comm]
      exact congrArg (· + _) ih

/-- The lines that a record is written as, where loggers are straight and verdicts agree. -/
theorem Coherent.log_eq (hcoherent : tree.Coherent) (hname : Undoubled (canonical name))
    (h : tree.Straight (canonical name)) (level : Int) (text : String) :
    (tree.log name level text).2 =
      if 0 < level ∧ tree.nearestLevel (way (canonical name)) ≤ level then
        List.replicate (tree.outputs (way (canonical name))) (line (canonical name) level text)
      else [] := by
  have houtputs (names : List String) :
      (tree.ask (canonical name)).outputs names = tree.outputs names := by
    simp only [outputs, logger_ask]
  rw [log, hcoherent.writes_ask hname h, outputs_chain hname (h.ask _), houtputs]
  simp only [decide_eq_true_eq]

/-- **A record is written once for each logger on its way that was given a level.**  Let loggers be
asked for, be given levels, and let records go through them, in any order.

* A logger that was given a level has one output, any other none.
* A logger has the level that it was given last, be it by a number or by the name of a level; before
  that it has none, except for the root.
* Let a record go through a logger whose name has no two dots side by side, where no logger above it
  has come late.  On the way up stand the logger, those above it and the root, each with a shorter
  name than the one before.  If the record has a positive level that reaches that of the first
  logger on the way that has one, it is written once for each logger on the way that was given a
  level, and otherwise not at all. -/
theorem log_run (settings : Except Settings.LoadFault Settings) (calls : List Call) :
    (∀ name, ((run settings calls).logger name).outputs = if opened name calls then 1 else 0) ∧
    (∀ name, ((run settings calls).logger name).level =
      (lastLevel settings name calls).getD (if name = "" then 30 else 0)) ∧
    (∀ l : Int, resolveLevel settings (.int l) = .ok l) ∧
    (∀ (s : String) (l : Int), (s.upperCase, l) ∈ levels →
      resolveLevel settings (.text s) = .ok l) ∧
    ∀ (name : String) (level : Int) (text : String), Undoubled (canonical name) →
      (∀ upper : String, upper.toList <+: rootName.toList →
        ¬ComesLate calls (canonical name) upper) →
      (∀ upper, upper ∈ way (canonical name) ↔
        upper = canonical name ∨ IsAbove upper (canonical name) ∨ upper = "") ∧
      (way (canonical name)).Pairwise (fun lower upper => upper.length < lower.length) ∧
      ((run settings calls).log name level text).2 =
        if 0 < level ∧ (run settings calls).nearestLevel (way (canonical name)) ≤ level then
          List.replicate ((way (canonical name)).countP (opened · calls))
            (line (canonical name) level text)
        else [] := by
  refine ⟨outputs_run settings calls, level_run settings calls, fun _ => rfl,
    fun _ _ => resolveLevel_of_mem_levels settings, fun name level text hname hlate =>
    ⟨fun _ => mem_way_iff hname, pairwise_way hname, ?_⟩⟩
  rw [(coherent_run settings calls).log_eq hname (straight_run settings hname hlate),
    outputs_run_names]

/-- A record of a logger that takes its level from the one above it. -/
theorem log_run_inherited :
    let settings : Settings := ⟨"m.yml", "d.yml", "UTC", -1, "json", "INFO"⟩
    let calls : List Call :=
      [.get "r" (.text "Error"), .log "r.x" 40 "first", .get "r.x" (.text "notset")]
    Undoubled "r.x" ∧
    (∀ upper : String, upper.toList <+: rootName.toList → ¬ComesLate calls "r.x" upper) ∧
    ((run (.ok settings) calls).log "r.x" 40 "second").2 =
      ["ERROR    | r.x | second", "ERROR    | r.x | second"] ∧
    ((run (.ok settings) calls).log "r.x" 30 "third").2 = [] := by
  intro settings calls
  have hname : Undoubled "r.x" := by decide
  have hlate : ∀ upper : String, upper.toList <+: rootName.toList →
      ¬ComesLate calls "r.x" upper := by
    rintro upper hroot ⟨hopened, call, hcall, -⟩
    have hopens : ("r" == upper || (false || ("r.x" == upper || false))) = true := hopened
    have hupper : "r" = upper ∨ "r.x" = upper := by simpa using hopens
    rcases hupper with rfl | rfl
    · exact absurd hcall List.not_mem_nil
    · exact absurd hroot (by decide)
  obtain ⟨-, -, -, -, hrecord⟩ := log_run (.ok settings) calls
  obtain ⟨-, -, hsecond⟩ := hrecord "r.x" 40 "second" hname hlate
  obtain ⟨-, -, hthird⟩ := hrecord "r.x" 30 "third" hname hlate
  exact ⟨hname, hlate, hsecond.trans (by decide), hthird.trans (by decide)⟩

/-- Four records that are not written as the loggers above them would have it: a logger named as the
root begins comes late, two dots stand side by side, the level of the record is not positive, and
the root has no level. -/
theorem run_misses_records :
    let settings : Except Settings.LoadFault Settings :=
      .ok ⟨"m.yml", "d.yml", "UTC", -1, "json", "INFO"⟩
    let late : List Call := [.get "r.x" (.int 10), .get "r" (.int 10)]
    let doubled : List Call := [.get "a" (.int 10), .get "a..b" (.int 10)]
    let negative : List Call := [.get "a" (.int (-5))]
    let rootless : List Call := [.get "" (.text "NOTSET"), .get "a" (.text "NOTSET")]
    ((way "r.x").countP (opened · late) = 2 ∧
      ((run settings late).log "r.x" 40 "late").2 = ["ERROR    | r.x | late"]) ∧
    (IsAbove "a" "a..b" ∧ opened "a" doubled = true ∧ opened "a..b" doubled = true ∧
      ((run settings doubled).log "a..b" 40 "doubled").2 = ["ERROR    | a..b | doubled"]) ∧
    ((run settings negative).nearestLevel (way "a") = -5 ∧ opened "a" negative = true ∧
      ((run settings negative).log "a" 0 "zero").2 = []) ∧
    ((∀ name ∈ way "a", ((run settings rootless).logger name).level = 0) ∧
      ((run settings rootless).log "a" 10 "fine").2 =
        ["DEBUG    | a | fine", "DEBUG    | a | fine"]) := by
  intro settings late doubled negative rootless
  have habove : IsAbove "a" "a..b" := ⟨by decide, ".b", by decide⟩
  exact ⟨by decide, ⟨habove, by decide⟩, by decide, by decide⟩

end MetricQuery.LogTree
