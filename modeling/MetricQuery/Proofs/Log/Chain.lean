import MetricQuery.Proofs.Log.Name
import MetricQuery.Proofs.Log.Tree

/-!
# The chain of a logger

A record passes the loggers from its own one up to the root, each of which belongs to the nearest
logger above it.  A logger whose name is the beginning of that of the root does not take over older
ones, so the chain may leave it out.  If it does so for no logger that is set up, then of the
loggers that are set up just those on the way up are met, in their order (`LogTree.filter_chain`),
and level and outputs can be read off the way (`LogTree.nearestLevel_chain`,
`LogTree.outputs_chain`).

## Main definitions

* `LogTree.isSet` : whether a logger has a level or an output.
* `LogTree.Straight` : a name from which no logger that is set up is left out.

## Main results

* `LogTree.filter_chain` : the loggers on a chain that are set up.
* `LogTree.nearestLevel_chain`, `LogTree.outputs_chain` : level and outputs along a chain.
-/

namespace MetricQuery.LogTree

variable {tree tree' : LogTree} {name upper lower : String} {before after names : List String}

/-! ### Loggers that are set up -/

/-- Whether a logger has a level or an output. -/
def isSet (tree : LogTree) (name : String) : Bool :=
  (tree.logger name).level ≠ 0 ∨ (tree.logger name).outputs ≠ 0

theorem isSet_iff :
    tree.isSet name = true ↔ (tree.logger name).level ≠ 0 ∨ (tree.logger name).outputs ≠ 0 :=
  decide_eq_true_iff

theorem isSet_eq_false_iff :
    tree.isSet name = false ↔ (tree.logger name).level = 0 ∧ (tree.logger name).outputs = 0 := by
  simp [isSet]

/-- A logger that is set up has come up. -/
theorem mem_keys_of_isSet (h : tree.isSet name = true) : name ∈ tree.keys := by
  by_contra hname
  have hbare : tree.logger name = .bare := by
    rw [LogTree.logger, Keyed.get?_eq_none_iff.2 hname, Option.getD_none]
  have hfalse : tree.isSet name = false := isSet_eq_false_iff.2 (by simp [hbare, Logger.bare])
  exact Bool.false_ne_true (hfalse.symm.trans h)

/-- The nearest level is that of a logger that is set up. -/
theorem nearestLevel_filter (tree : LogTree) (names : List String) :
    tree.nearestLevel (names.filter tree.isSet) = tree.nearestLevel names := by
  simp only [nearestLevel, List.find?_map, List.find?_filter]
  congr 3
  funext name
  by_cases hlevel : (tree.logger name).level = 0
  · simp [hlevel]
  · simp [isSet, hlevel]

/-- Outputs are those of loggers that are set up. -/
theorem outputs_filter (tree : LogTree) (names : List String) :
    tree.outputs (names.filter tree.isSet) = tree.outputs names := by
  induction names with
  | nil => rfl
  | cons name rest ih =>
      cases hset : tree.isSet name with
      | true =>
          rw [List.filter_cons_of_pos hset]
          simpa [outputs] using ih
      | false =>
          rw [List.filter_cons_of_neg (by simp [hset]), ih]
          simp [outputs, (isSet_eq_false_iff.1 hset).2]

/-! ### Straight names -/

/-- No logger that is set up is left out above a name: if its name is the beginning of that of the
root, it is older than the loggers that come before it on the way up. -/
def Straight (tree : LogTree) (name : String) : Prop :=
  ∀ upper ∈ above name, tree.isSet upper = true → upper.toList <+: rootName.toList →
    ∀ lower ∈ name :: above name, upper.length < lower.length → tree.isOlder lower upper = false

theorem Straight.of_above (h : tree.Straight name) (hname : Undoubled name)
    (habove : above name = before ++ upper :: after) : tree.Straight upper := by
  have hupper : above upper = after := above_of_eq_append hname habove
  have hmem : ∀ n ∈ upper :: after, n ∈ above name := fun n hn =>
    habove ▸ List.mem_append_right before hn
  intro highest hhighest hset hroot lower hlower hlength
  rw [hupper] at hhighest hlower
  exact h highest (hmem _ (List.mem_cons_of_mem _ hhighest)) hset hroot lower
    (List.mem_cons_of_mem _ (hmem _ hlower)) hlength

/-- What a straight name does not belong to is not set up. -/
theorem Straight.isSet_eq_false (h : tree.Straight name) (hupper : upper ∈ above name)
    (hbelongs : ¬tree.belongsTo name upper = true) : tree.isSet upper = false := by
  by_contra hset
  rw [Bool.not_eq_false] at hset
  refine hbelongs ?_
  rw [belongsTo, Keyed.has_iff.2 (mem_keys_of_isSet hset), Bool.true_and, Bool.not_eq_true',
    Bool.and_eq_false_imp, List.isPrefixOf_iff_prefix]
  exact fun hroot => h upper hupper hset hroot name List.mem_cons_self (length_of_mem_above hupper)

/-- Which of two loggers is older does not change while others come up. -/
theorem isOlder_of_prefix_keys (hkeys : tree.keys <+: tree'.keys) (h : upper ∈ tree.keys)
    (lower : String) : tree'.isOlder lower upper = tree.isOlder lower upper := by
  obtain ⟨more, hmore⟩ := hkeys
  obtain ⟨older, younger, hsplit, holder⟩ := List.eq_append_cons_of_mem h
  have hbefore (rest : List String) :
      (older ++ upper :: rest).takeWhile (· != upper) = older := by
    have hall : ∀ n ∈ older, (n != upper) = true := fun n hn =>
      bne_iff_ne.2 fun heq => holder (heq ▸ hn)
    rw [List.takeWhile_append_of_pos hall, List.takeWhile_cons_of_neg (by simp), List.append_nil]
  rw [isOlder, isOlder, ← hmore, hsplit, List.append_assoc, List.cons_append, hbefore, hbefore]

/-- A name that is straight in one tree is so in another one, if the loggers that are set up there
are set up in the first one too and have the same older loggers. -/
theorem Straight.of_isSet (h : tree.Straight name)
    (hset : ∀ upper, tree'.isSet upper = true → tree.isSet upper = true ∧
      ∀ lower, tree'.isOlder lower upper = tree.isOlder lower upper) : tree'.Straight name := by
  intro upper hupper hupperSet hroot lower hlower hlength
  obtain ⟨hupperSet, holder⟩ := hset upper hupperSet
  rw [holder]
  exact h upper hupper hupperSet hroot lower hlower hlength

/-- A name that is straight was so before further loggers came up and were set up. -/
theorem Straight.of_prefix_keys (h : tree'.Straight name) (hkeys : tree.keys <+: tree'.keys)
    (hset : ∀ n, tree.isSet n = true → tree'.isSet n = true) : tree.Straight name := by
  refine h.of_isSet fun upper hupper => ⟨hset upper hupper, fun lower => ?_⟩
  exact (isOlder_of_prefix_keys hkeys (mem_keys_of_isSet hupper) lower).symm

/-- A name stays straight while loggers are asked for. -/
theorem Straight.ask (h : tree.Straight name) (asked : String) :
    (tree.ask asked).Straight name := by
  have hkeys : tree.keys <+: (tree.ask asked).keys := keys_ask tree asked ▸ List.prefix_append ..
  refine h.of_isSet fun upper hupper => ?_
  rw [isSet, logger_ask] at hupper
  exact ⟨hupper, isOlder_of_prefix_keys hkeys (mem_keys_of_isSet hupper)⟩

/-! ### Chains -/

/-- A logger belongs to the root, or to the first one above it that it can belong to. -/
theorem parent_cases (tree : LogTree) (name : String) :
    (tree.parent name = "" ∧ ∀ upper ∈ above name, ¬tree.belongsTo name upper = true) ∨
    ∃ before after, above name = before ++ tree.parent name :: after ∧
      ∀ upper ∈ before, ¬tree.belongsTo name upper = true := by
  rw [parent]
  cases hfound : (above name).find? (tree.belongsTo name) with
  | none => exact .inl ⟨rfl, List.find?_eq_none.1 hfound⟩
  | some upper =>
      obtain ⟨-, before, after, habove, hbefore⟩ := List.find?_eq_some_iff_append.1 hfound
      exact .inr ⟨before, after, habove, fun n hn => by simpa using hbefore n hn⟩

theorem length_parent_lt (tree : LogTree) (h : name ≠ "") :
    (tree.parent name).length < name.length := by
  rcases tree.parent_cases name with ⟨hroot, -⟩ | ⟨before, after, habove, -⟩
  · rw [hroot]
    exact Nat.pos_of_ne_zero (mt String.length_eq_zero_iff.1 h)
  · exact length_of_mem_above (habove ▸ List.mem_append_right before List.mem_cons_self)

theorem Undoubled.parent (hname : Undoubled name) (tree : LogTree) :
    Undoubled (tree.parent name) := by
  rcases tree.parent_cases name with ⟨hroot, -⟩ | ⟨before, after, habove, -⟩
  · rw [hroot]
    exact fun h => absurd (List.infix_nil.1 h) (List.cons_ne_nil _ _)
  · have hupper := habove ▸ List.mem_append_right before List.mem_cons_self
    exact hname.of_isAbove ((mem_above_iff hname).1 hupper)

theorem Straight.parent (h : tree.Straight name) (hname : Undoubled name) :
    tree.Straight (tree.parent name) := by
  rcases tree.parent_cases name with ⟨hroot, -⟩ | ⟨before, after, habove, -⟩
  · rw [hroot]
    exact fun upper hupper => absurd hupper List.not_mem_nil
  · exact h.of_above hname habove

/-- Behind a straight name the way goes on from the logger that it belongs to, up to loggers that
are not set up. -/
theorem Straight.filter_way_parent (h : tree.Straight name) (hname : Undoubled name) :
    (way (tree.parent name)).filter tree.isSet = (above name ++ [""]).filter tree.isSet := by
  have hskip : ∀ skipped : List String, (∀ upper ∈ skipped, upper ∈ above name) →
      (∀ upper ∈ skipped, ¬tree.belongsTo name upper = true) → skipped.filter tree.isSet = [] := by
    intro skipped habove hbelongs
    refine List.filter_eq_nil_iff.2 fun upper hupper => ?_
    rw [h.isSet_eq_false (habove upper hupper) (hbelongs upper hupper)]
    exact Bool.false_ne_true
  rcases tree.parent_cases name with ⟨hroot, hnone⟩ | ⟨before, after, habove, hbefore⟩
  · rw [hroot, List.filter_append, hskip _ (fun _ => id) hnone]
    rfl
  · have hparent : tree.parent name ∈ above name :=
      habove ▸ List.mem_append_right before List.mem_cons_self
    have hskipped : before.filter tree.isSet = [] :=
      hskip before (fun upper hupper => habove ▸ List.mem_append_left _ hupper) hbefore
    rw [way_of_ne ((mem_above_iff hname).1 hparent).1, above_of_eq_append hname habove]
    conv_rhs => rw [habove, List.append_assoc, List.filter_append, hskipped, List.nil_append]
    rfl

theorem chainWithin_root (tree : LogTree) (fuel : Nat) : tree.chainWithin fuel "" = [""] := by
  cases fuel <;> rfl

/-- Of the loggers that are set up a chain meets those on the way up. -/
theorem filter_chainWithin {fuel : Nat} (hfuel : name.length ≤ fuel) (hname : Undoubled name)
    (h : tree.Straight name) :
    (tree.chainWithin fuel name).filter tree.isSet = (way name).filter tree.isSet := by
  induction fuel generalizing name with
  | zero =>
      obtain rfl : name = "" := String.length_eq_zero_iff.1 (Nat.le_zero.1 hfuel)
      rfl
  | succ fuel ih =>
      by_cases hroot : name = ""
      · rw [hroot, chainWithin_root]
        rfl
      have hparent : (tree.parent name).length ≤ fuel := by
        have := tree.length_parent_lt hroot
        omega
      rw [chainWithin, if_neg (by simpa using hroot), way_of_ne hroot, List.filter_cons,
        List.filter_cons, ih hparent (hname.parent tree) (h.parent hname),
        h.filter_way_parent hname]

/-- Of the loggers that are set up a chain meets those on the way up. -/
theorem filter_chain (hname : Undoubled name) (h : tree.Straight name) :
    (tree.chain name).filter tree.isSet = (way name).filter tree.isSet :=
  filter_chainWithin le_rfl hname h

theorem nearestLevel_chain (hname : Undoubled name) (h : tree.Straight name) :
    tree.nearestLevel (tree.chain name) = tree.nearestLevel (way name) := by
  rw [← nearestLevel_filter, filter_chain hname h, nearestLevel_filter]

theorem outputs_chain (hname : Undoubled name) (h : tree.Straight name) :
    tree.outputs (tree.chain name) = tree.outputs (way name) := by
  rw [← outputs_filter, filter_chain hname h, outputs_filter]

end MetricQuery.LogTree
