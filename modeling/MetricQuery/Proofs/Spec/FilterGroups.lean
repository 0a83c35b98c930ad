import Mathlib.Data.List.Induction
import MetricQuery.Proofs.Keyed
import MetricQuery.Proofs.Members
import MetricQuery.Proofs.Spec.Congruence

/-!
# Groups of filters

Filters are given one after another or in a mapping, and a specification holds them grouped by
dimension.  The groups of a list of values are put in one formula (`Keyed.groups_eq`): under each
key that comes up, in the order in which the keys come up, stand the values with this key without
repeats.  So the groups lose nothing, and their values one after another have the members of the
list again.

Whatever lists the same values under their keys leads to equal groups, in any order and with any
repeats, since maps and sets are compared without regard to order (`Keyed.Lists.same_iff`).  Only a
key that no value has makes a difference: nothing is listed under it, but it stays in the map.

## Main definitions

* `Keyed.groups` : the values of a list under their keys.
* `Keyed.Lists` : mappings that list the values of a list under their keys.
* `Spec.Parts.KeysDiffer` : parts whose maps have different keys.

## Main results

* `Keyed.groups_eq`, `Keyed.lists_groups` : the groups of a list of values.
* `Keyed.Lists.same_iff` : the mappings that lead to the groups of a list.
* `Spec.make_filters` : a specification with other filters.
* `Spec.filters_grouped` : filters in every form and order.
-/

namespace MetricQuery

/-! ### Groups -/

namespace Keyed

section Groups

variable {κ ν : Type} [BEq κ] [BEq ν]

/-- The values of a list, each added to the set under its key. -/
def groups (key : ν → κ) (xs : List ν) : Keyed κ (List ν) :=
  xs.foldl (fun m x => m.addUnder (key x) x) []

theorem groups_concat (key : ν → κ) (xs : List ν) (x : ν) :
    groups key (xs ++ [x]) = (groups key xs).addUnder (key x) x :=
  List.foldl_concat ..

/-- A mapping lists the values of a list under their keys: it has the keys of all values, and under
each of its keys the values with this key, in any order and with any repeats. -/
structure Lists (key : ν → κ) (m : Keyed κ (List ν)) (xs : List ν) : Prop where
  different : NoRepeats m.keys
  complete : ∀ x ∈ xs, ∃ k ∈ m.keys, (key x == k) = true
  exact : ∀ e ∈ m, AlikeSets e.2 (xs.filter (e.1 == key ·))

variable [EquivBEq κ]

/-- A value is added to the set under its key, or behind all sets if the key is new. -/
theorem addUnder_map {ks : List κ} (hks : NoRepeats ks) (sets : κ → List ν) (k : κ) (v : ν) :
    addUnder (ks.map fun d => (d, sets d)) k v =
      if ks.any (· == k) then
        ks.map fun d => (d, if d == k then sets d ++ (if (sets d).any (· == v) then [] else [v])
          else sets d)
      else ks.map (fun d => (d, sets d)) ++ [(k, [v])] := by
  induction ks with
  | nil => rfl
  | cons d ks ih =>
      obtain ⟨hfirst, hrest⟩ := List.pairwise_cons.1 hks
      rw [List.map_cons, addUnder, List.any_cons]
      cases hd : d == k with
      | true =>
          -- No later key equals `k`.
          have hlater : ∀ d' ∈ ks, (d' == k) = false := by
            intro d' hd'
            rw [← hfirst d' hd', Bool.eq_iff_iff]
            exact ⟨fun h => BEq.trans hd (BEq.symm h), fun h => BEq.trans (BEq.symm h) hd⟩
          rw [if_pos rfl, Bool.true_or, if_pos rfl, List.map_cons, hd, if_pos rfl]
          congr 1
          · split <;> simp
          · refine List.map_congr_left fun d' hd' => ?_
            rw [hlater d' hd', if_neg Bool.false_ne_true]
      | false =>
          rw [if_neg Bool.false_ne_true, ih hrest, Bool.false_or]
          split
          · rw [List.map_cons, hd, if_neg Bool.false_ne_true]
          · rfl

variable [EquivBEq ν] (key : ν → κ)

/-- Under each key that comes up stand the values with this key, without repeats. -/
theorem groups_eq (xs : List ν) :
    groups key xs =
      (distinct (xs.map key)).map fun k => (k, distinct (xs.filter (k == key ·))) := by
  induction xs using List.reverseRecOn with
  | nil => rfl
  | append_singleton xs x ih =>
      rw [groups_concat, ih, addUnder_map (noRepeats_distinct _), any_distinct, List.map_append,
        List.map_singleton, distinct_concat]
      cases hknown : (xs.map key).any (· == key x) with
      | true =>
          rw [if_pos rfl, if_pos rfl, List.append_nil]
          refine List.map_congr_left fun k _ => ?_
          rw [List.filter_append, List.filter_singleton]
          cases hk : k == key x with
          | true => rw [if_pos rfl, cond_true, distinct_concat, any_distinct]
          | false => rw [if_neg Bool.false_ne_true, cond_false, List.append_nil]
      | false =>
          have hnew : ∀ y ∈ xs, (key y == key x) = false := by
            simpa [List.any_eq_false] using hknown
          rw [if_neg Bool.false_ne_true, if_neg Bool.false_ne_true, List.map_append,
            List.map_singleton]
          congr 1
          · refine List.map_congr_left fun k hk => ?_
            obtain ⟨y, hy, rfl⟩ := List.mem_map.1 ((distinct_sublist _).subset hk)
            rw [List.filter_append, List.filter_singleton, hnew y hy, cond_false, List.append_nil]
          · have hnone : xs.filter (key x == key ·) = [] := by
              rw [List.filter_eq_nil_iff]
              intro y hy h
              rw [BEq.comm, hnew y hy] at h
              exact Bool.false_ne_true h
            rw [List.filter_append, hnone, List.filter_singleton, BEq.rfl, cond_true]
            rfl

variable {key : ν → κ} {xs ys : List ν} {m : Keyed κ (List ν)}

theorem keys_groups (key : ν → κ) (xs : List ν) :
    (groups key xs).keys = distinct (xs.map key) := by
  rw [groups_eq, keys, List.map_map]
  exact List.map_id _

theorem noRepeats_keys_groups (key : ν → κ) (xs : List ν) : NoRepeats (groups key xs).keys :=
  keys_groups key xs ▸ noRepeats_distinct _

/-- A group has the values of the list that have its key, without repeats, and there are some. -/
theorem eq_distinct_of_mem_groups {e : κ × List ν} (he : e ∈ groups key xs) :
    e.2 = distinct (xs.filter (e.1 == key ·)) ∧ ∃ x ∈ xs, key x = e.1 := by
  rw [groups_eq] at he
  obtain ⟨k, hk, rfl⟩ := List.mem_map.1 he
  exact ⟨rfl, List.mem_map.1 ((distinct_sublist _).subset hk)⟩

theorem ne_nil_of_mem_groups {e : κ × List ν} (he : e ∈ groups key xs) : e.2 ≠ [] := by
  obtain ⟨hset, x, hx, hkey⟩ := eq_distinct_of_mem_groups he
  have hmem : x ∈ xs.filter (e.1 == key ·) := List.mem_filter.2 ⟨hx, by rw [hkey, BEq.rfl]⟩
  obtain ⟨y, hy, -⟩ := exists_mem_distinct hmem
  rw [hset]
  exact List.ne_nil_of_mem hy

theorem exists_mem_keys_groups (key : ν → κ) {x : ν} (hx : x ∈ xs) :
    ∃ k ∈ (groups key xs).keys, (key x == k) = true := by
  rw [keys_groups]
  exact exists_mem_distinct (List.mem_map_of_mem hx)

/-- The groups one after another have the members of the list. -/
theorem alikeSets_flatMap_groups (key : ν → κ) (xs : List ν) :
    AlikeSets ((groups key xs).flatMap (·.2)) xs := by
  constructor
  · intro x hx
    obtain ⟨e, he, hx⟩ := List.mem_flatMap.1 hx
    obtain ⟨hset, -⟩ := eq_distinct_of_mem_groups he
    rw [hset] at hx
    exact ⟨x, (List.mem_filter.1 ((distinct_sublist _).subset hx)).1, BEq.rfl⟩
  · intro x hx
    obtain ⟨k, hk, hxk⟩ := exists_mem_keys_groups key hx
    obtain ⟨e, he, rfl⟩ := List.mem_map.1 hk
    have hmem : x ∈ xs.filter (e.1 == key ·) := List.mem_filter.2 ⟨hx, BEq.symm hxk⟩
    obtain ⟨y, hy, hxy⟩ := exists_mem_distinct hmem
    rw [← (eq_distinct_of_mem_groups he).1] at hy
    exact ⟨y, List.mem_flatMap.2 ⟨e, he, hy⟩, hxy⟩

/-! ### Mappings that list the values of a list -/

section Lists

variable (hkey : ∀ x y, (x == y) = true → (key x == key y) = true)

include hkey in
/-- The groups of a list with equal members list the values. -/
theorem lists_groups (h : AlikeSets xs ys) : Lists key (groups key ys) xs where
  different := noRepeats_keys_groups key ys
  complete x hx := by
    obtain ⟨y, hy, hxy⟩ := h.left x hx
    obtain ⟨k, hk, hyk⟩ := exists_mem_keys_groups key hy
    exact ⟨k, hk, BEq.trans (hkey x y hxy) hyk⟩
  exact e he := by
    rw [(eq_distinct_of_mem_groups he).1]
    exact (alikeSets_distinct _).trans
      (h.symm.filter fun x y hxy => BEq.congr_right (hkey x y hxy))

/-- Under a key that equals one of a mapping the value of the first such key is found. -/
theorem exists_get?_of_mem_keys {μ : Type} {m : Keyed κ μ} {k k' : κ} (hk' : k' ∈ m.keys)
    (hkk' : (k == k') = true) :
    ∃ e ∈ m, (e.1 == k) = true ∧ m.get? k = some e.2 := by
  obtain ⟨e', he', rfl⟩ := List.mem_map.1 hk'
  have hfound : (m.find? fun e => e.1 == k).isSome := by
    rw [List.find?_isSome]
    exact ⟨e', he', BEq.symm hkk'⟩
  obtain ⟨e, he⟩ := Option.isSome_iff_exists.1 hfound
  have hkey := List.find?_some he
  exact ⟨e, List.mem_of_find?_eq_some he, hkey, by rw [get?, he, Option.map_some]⟩

/-- The keys of the groups are keys of every mapping that lists the values. -/
theorem Lists.exists_mem_keys (h : Lists key m xs) {k : κ} (hk : k ∈ (groups key xs).keys) :
    ∃ k' ∈ m.keys, (k == k') = true := by
  obtain ⟨e, he, rfl⟩ := List.mem_map.1 hk
  obtain ⟨-, x, hx, hkey⟩ := eq_distinct_of_mem_groups he
  rw [← hkey]
  exact h.complete x hx

/-- A key of a mapping that no value has is one more than the keys of the groups. -/
theorem Lists.length_groups_lt (h : Lists key m xs) {k : κ} (hk : k ∈ m.keys)
    (hforeign : ∀ x ∈ xs, (k == key x) = false) : (groups key xs).length < m.length := by
  have hmore : NoRepeats (k :: (groups key xs).keys) := by
    refine List.pairwise_cons.2 ⟨fun k' hk' => ?_, noRepeats_keys_groups key xs⟩
    obtain ⟨e, he, rfl⟩ := List.mem_map.1 hk'
    obtain ⟨-, x, hx, hkey⟩ := eq_distinct_of_mem_groups he
    rw [← hkey]
    exact hforeign x hx
  have hall : ∀ k' ∈ k :: (groups key xs).keys, ∃ k'' ∈ m.keys, (k' == k'') = true :=
    List.forall_mem_cons.2 ⟨⟨k, hk, BEq.rfl⟩, fun _ hk' => h.exists_mem_keys hk'⟩
  have hle := hmore.length_le hall
  rwa [List.length_cons, keys, keys, List.length_map, List.length_map] at hle

/-- The sets under equal keys have equal members. -/
theorem Lists.alikeSets (h : Lists key m xs) {e e' : κ × List ν} (he : e ∈ groups key xs)
    (he' : e' ∈ m) (hkeys : (e'.1 == e.1) = true) : AlikeSets e.2 (distinct e'.2) := by
  have hfilter : xs.filter (e.1 == key ·) = xs.filter (e'.1 == key ·) :=
    List.filter_congr fun x _ => (BEq.congr_left hkeys).symm
  rw [(eq_distinct_of_mem_groups he).1, hfilter]
  exact (alikeSets_distinct _).trans ((h.exact e' he').symm.trans (alikeSets_distinct _).symm)

/-- A mapping that lists the values of a list leads to equal groups exactly if all its keys are keys
of values. -/
theorem Lists.same_iff (h : Lists key m xs) :
    (groups key xs).same sameMembers (m.map fun e => (e.1, distinct e.2)) = true ↔
      ∀ k ∈ m.keys, ∃ x ∈ xs, (k == key x) = true := by
  rw [same, Bool.and_eq_true, beq_iff_eq, List.all_eq_true, List.length_map]
  constructor
  · rintro ⟨hlength, -⟩ k hk
    by_contra hnone
    have hforeign : ∀ x ∈ xs, (k == key x) = false := fun x hx =>
      Bool.not_eq_true _ ▸ fun hkx => hnone ⟨x, hx, hkx⟩
    exact absurd hlength (Nat.ne_of_lt (h.length_groups_lt hk hforeign))
  · intro hknown
    have hkeys : AlikeSets (groups key xs).keys m.keys := by
      refine ⟨fun k => h.exists_mem_keys, fun k hk => ?_⟩
      obtain ⟨x, hx, hkx⟩ := hknown k hk
      obtain ⟨k', hk', hxk'⟩ := exists_mem_keys_groups key hx
      exact ⟨k', hk', BEq.trans hkx hxk'⟩
    have hlength := hkeys.length_eq (noRepeats_keys_groups key xs) h.different
    rw [keys, keys, List.length_map, List.length_map] at hlength
    refine ⟨hlength, fun e he => ?_⟩
    obtain ⟨k', hk', hkk'⟩ := h.exists_mem_keys (List.mem_map_of_mem he)
    obtain ⟨e', he', hee', hget⟩ := exists_get?_of_mem_keys hk' hkk'
    have hset : get? (m.map fun e => (e.1, distinct e.2)) e.1 = some (distinct e'.2) := by
      rw [get?_map, hget, Option.map_some]
    have hnodup : NoRepeats e.2 := (eq_distinct_of_mem_groups he).1 ▸ noRepeats_distinct _
    dsimp only
    rw [hset, Option.any_some]
    exact (h.alikeSets he he' hee').sameMembers hnodup (noRepeats_distinct _)

include hkey in
/-- Lists with equal members have equal groups. -/
theorem same_groups (h : AlikeSets xs ys) :
    (groups key xs).same sameMembers (groups key ys) = true := by
  have hfixed : ((groups key ys).map fun e => (e.1, distinct e.2)) = groups key ys := by
    refine (List.map_congr_left fun e he => ?_).trans (List.map_id _)
    rw [(eq_distinct_of_mem_groups he).1, distinct_distinct, id, ← (eq_distinct_of_mem_groups he).1]
  rw [← hfixed]
  refine (lists_groups hkey h).same_iff.2 fun k hk => ?_
  obtain ⟨e, he, rfl⟩ := List.mem_map.1 hk
  obtain ⟨-, y, hy, hye⟩ := eq_distinct_of_mem_groups he
  obtain ⟨x, hx, hyx⟩ := h.right y hy
  exact ⟨x, hx, hye ▸ hkey y x hyx⟩

end Lists

end Groups

end Keyed

namespace Spec

/-! ### Normal forms of filters -/

theorem normalFilters_flat (fs : List Filter) :
    normalFilters (.flat (.items fs)) = .ok (Keyed.groups Filter.dimension fs) :=
  rfl

theorem normalFilters_grouped (m : Keyed Dimension (List Filter)) :
    normalFilters (.grouped (m.map fun e => (e.1, .items e.2))) =
      .ok (m.map fun e => (e.1, distinct e.2)) := by
  rw [normalFilters, List.mapM_eq_ok_iff, List.forall₂_map_left_iff, List.forall₂_map_right_iff,
    List.forall₂_same]
  exact fun _ _ => rfl

end Spec

/-! ### Maps of fields and of havings -/

/-- A given map has different keys. -/
def Given.KeysDiffer {κ μ : Type} [BEq κ] : Given (κ × μ) Datum.Entryless → Prop
  | items entries => NoRepeats (Keyed.keys entries)
  | loose .. => True

theorem Given.KeysDiffer.noRepeats {κ μ : Type} [BEq κ] {g : Given (κ × μ) Datum.Entryless}
    (h : g.KeysDiffer) {entries : List (κ × μ)} (hentries : g.entriesOrNone = .ok entries) :
    NoRepeats (Keyed.keys entries) := by
  cases g with
  | items es =>
      obtain rfl := Except.ok.inj hentries
      exact h
  | loose d =>
      rw [entriesOrNone] at hentries
      split at hentries
      · obtain rfl := Except.ok.inj hentries
        exact .nil
      · cases hentries

namespace Spec

/-- Parts whose maps of fields and of havings have different keys. -/
structure Parts.KeysDiffer (p : Parts) : Prop where
  dimensionFields : p.dimensionFields.KeysDiffer
  havings : p.havings.KeysDiffer

/-- Maps of a specification that have different keys. -/
structure KeysDiffer (s : Spec) : Prop where
  dimensionFields : NoRepeats s.dimensionFields.keys
  havings : NoRepeats s.havings.keys

theorem Parts.KeysDiffer.of_make {p : Parts} {s : Spec} (h : p.KeysDiffer)
    (hs : make p = .ok s) : s.KeysDiffer where
  dimensionFields := by
    have hstored : normalFields p.dimensionFields = .ok s.dimensionFields :=
      stored_of_make hs .dimensionFields
    obtain ⟨entries, hentries, hmap⟩ := Except.bind_eq_ok_iff.1 hstored
    have hkeys : s.dimensionFields.keys = Keyed.keys entries := by
      refine keys_of_mapM_eq_ok (fun e e' he => ?_) hmap
      obtain ⟨_, -, ⟨⟩⟩ := Except.bind_eq_ok_iff.1 he
      rfl
    rw [hkeys]
    exact h.dimensionFields.noRepeats hentries
  havings := by
    have hstored : normalHavings p.havings = .ok s.havings := stored_of_make hs .havings
    obtain ⟨entries, hentries, hmap⟩ := Except.bind_eq_ok_iff.1 hstored
    have hkeys : s.havings.keys = Keyed.keys entries := by
      refine keys_of_mapM_eq_ok (fun e e' he => ?_) hmap
      simp only [Except.bind_eq_ok_iff] at he
      obtain ⟨_, -, _, -, ⟨⟩⟩ := he
      rfl
    rw [hkeys]
    exact h.havings.noRepeats hentries

/-! ### Specifications with other filters -/

section Filters

variable {p : Parts} {s : Spec} {given : GivenFilters} {m : Keyed Dimension (List Filter)}

/-- A specification is made with other filters if they have a normal form. -/
theorem make_filters (hs : make p = .ok s) (hm : normalFilters given = .ok m) :
    make { p with filters := given } = .ok { s with filters := m } := by
  refine make_eq_ok_iff.2 fun f => ?_
  have hf := stored_of_make hs f
  cases f with
  | filters => exact hm
  | _ => exact hf

theorem update_filters (hs : make p = .ok s) (hm : normalFilters given = .ok m) :
    s.update (.filters given) = .ok { s with filters := m } :=
  make_filters (make_parts hs) hm

theorem beq_filters_iff (h : s.KeysDiffer) :
    (s == { s with filters := m }) = true ↔ s.filters.same sameMembers m = true := by
  have hbeq : (s == { s with filters := m }) = (agreement s { s with filters := m }).all (·.2) :=
    rfl
  have hfields : s.dimensionFields.same (· == ·) s.dimensionFields = true :=
    (alikeMaps_refl h.dimensionFields alikeLists_refl).same fun _ _ => list_beq_iff.2
  have hhavings : s.havings.same sameMembers s.havings = true :=
    (alikeMaps_refl h.havings alikeLists_refl).same fun _ _ => AlikeLists.sameMembers
  rw [hbeq, List.all_eq_true]
  simp only [agreement, List.forall_mem_cons]
  constructor
  · rintro ⟨-, -, -, -, -, -, h, -⟩
    exact h
  · intro h
    exact ⟨BEq.rfl, BEq.rfl, BEq.rfl, hfields, BEq.rfl, BEq.rfl, h, hhavings, BEq.rfl, BEq.rfl,
      BEq.rfl, BEq.rfl, BEq.rfl, BEq.rfl, BEq.rfl, BEq.rfl,
      fun _ he => absurd he List.not_mem_nil⟩

/-- Specifications that differ in nothing but their filters match exactly if the filters are equal.
-/
theorem matches_filters_iff (h : s.KeysDiffer) :
    s.Matches { s with filters := m } ↔ s.filters.same sameMembers m = true := by
  rw [← beq_filters_iff h]
  exact ⟨Matches.beq, fun hbeq => ⟨hbeq, differing_eq_nil_iff.2 hbeq, rfl, rfl, rfl, rfl⟩⟩

/-- A mapping that lists the filters of a list under their dimensions may have further keys, under
which it lists nothing.  A specification keeps such a key, and does not match the one with the
filters of the list then. -/
theorem matches_grouped_iff {fs : List Filter} (hs : make p = .ok s) (hdiffer : s.KeysDiffer)
    (hm : m.Lists Filter.dimension fs) :
    ∃ t, make { p with filters := .grouped (m.map fun e => (e.1, .items e.2)) } = .ok t ∧
      ({ s with filters := Keyed.groups Filter.dimension fs }.Matches t ↔
        ∀ d ∈ m.keys, ∃ f ∈ fs, (d == f.dimension) = true) := by
  have hgrouped : KeysDiffer { s with filters := Keyed.groups Filter.dimension fs } :=
    ⟨hdiffer.dimensionFields, hdiffer.havings⟩
  exact ⟨_, make_filters hs (normalFilters_grouped m),
    (matches_filters_iff hgrouped).trans hm.same_iff⟩

end Filters

/-- **Filters are grouped without loss**, in whichever form and order they are given.  Let parts
that make a specification be given a list of filters.

* The specification that they make has as keys of its filters the dimensions of the list, in the
  order in which they come up.  The set of a dimension are the filters of the list on the dimension,
  and it is not empty.
* Every list of the same filters, in any order and with any repeats, makes an equal specification.
* So does every mapping whose keys are the dimensions of the list, in any order, and which lists
  under each of them the filters on it, in any order and with any repeats.  More keys than these,
  under which nothing is listed, are the one thing that makes a difference
  (`matches_grouped_iff`).
* The filters of all sets in a row, in any order, lead back to an equal specification when they
  replace the filters. -/
theorem filters_grouped {p : Parts} {r : Spec} (hp : p.KeysDiffer) (hr : make p = .ok r)
    (fs : List Filter) :
    ∃ s, make { p with filters := .flat (.items fs) } = .ok s ∧
      s.filters.keys = distinct (fs.map (·.dimension)) ∧
      (∀ e ∈ s.filters, e.2 = distinct (fs.filter (e.1 == ·.dimension)) ∧ e.2 ≠ []) ∧
      (∀ gs, AlikeSets fs gs →
        ∃ t, make { p with filters := .flat (.items gs) } = .ok t ∧ s.Matches t) ∧
      (∀ m, Keyed.Lists Filter.dimension m fs →
        ∃ t, make { p with filters := .grouped (m.map fun e => (e.1, .items e.2)) } = .ok t ∧
          (s.Matches t ↔ ∀ d ∈ m.keys, ∃ f ∈ fs, (d == f.dimension) = true)) ∧
      ∀ gs, gs.Perm (s.filters.flatMap (·.2)) →
        ∃ t, s.update (.filters (.flat (.items gs))) = .ok t ∧ s.Matches t := by
  have hs := make_filters hr (normalFilters_flat fs)
  have hdiffer : KeysDiffer { r with filters := Keyed.groups Filter.dimension fs } :=
    ⟨(hp.of_make hr).dimensionFields, (hp.of_make hr).havings⟩
  refine ⟨_, hs, Keyed.keys_groups _ fs, fun e he => ?_, fun gs hgs => ?_, fun m hm => ?_,
    fun gs hgs => ?_⟩
  · exact ⟨(Keyed.eq_distinct_of_mem_groups he).1, Keyed.ne_nil_of_mem_groups he⟩
  · exact ⟨_, make_filters hr (normalFilters_flat gs),
      (matches_filters_iff hdiffer).2 (Keyed.same_groups (fun _ _ => Filter.dimension_beq) hgs)⟩
  · exact matches_grouped_iff hr (hp.of_make hr) hm
  · have hmembers : AlikeSets fs gs :=
      ((AlikeSets.of_perm hgs).trans (Keyed.alikeSets_flatMap_groups _ fs)).symm
    exact ⟨_, update_filters hs (normalFilters_flat gs),
      (matches_filters_iff hdiffer).2
        (Keyed.same_groups (fun _ _ => Filter.dimension_beq) hmembers)⟩

/-- Filters on pages, bound to a store or not, and on users. -/
theorem filters_grouped_pageViews :
    let page : Dimension := .make "page" "" "" "" [] []
    let bound : Dimension := { page with store := some "pages" }
    let user : Dimension := .make "user" "" "" "" [] []
    let home : Filter := ⟨page, ⟨"id", ""⟩, .eq, [.text "home"]⟩
    let about : Filter := ⟨bound, ⟨"id", ""⟩, .eq, [.text "about"]⟩
    let anna : Filter := ⟨user, ⟨"id", ""⟩, .eq, [.text "anna"]⟩
    let m : Keyed Dimension (List Filter) := [(user, [anna]), (bound, [about, home, about])]
    ∃ s t u, make { pageViews with filters := .flat (.items [home, anna, about, home]) } = .ok s ∧
      s.filters.keys = [page, user] ∧
      make { pageViews with filters := .grouped (m.map fun e => (e.1, .items e.2)) } = .ok t ∧
      s.Matches t ∧ s.update (.filters (.flat (.items [about, anna, home]))) = .ok u ∧
      s.Matches u := by
  intro page bound user home about anna m
  obtain ⟨r, hr⟩ : ∃ r, make pageViews = .ok r := ⟨_, rfl⟩
  obtain ⟨s, hs, hkeys, -, -, hmapping, hflat⟩ :=
    filters_grouped (p := pageViews) ⟨.nil, .nil⟩ hr [home, anna, about, home]
  have hlists : m.Lists Filter.dimension [home, anna, about, home] := by
    refine ⟨?_, by decide +kernel, ?_⟩
    · unfold NoRepeats
      decide +kernel
    · refine List.forall_mem_cons.2 ⟨⟨?_, ?_⟩, List.forall_mem_singleton.2 ⟨?_, ?_⟩⟩
      all_goals decide +kernel
  obtain ⟨t, ht, hst⟩ := hmapping m hlists
  have hfilters : s.filters = [(page, [home, about]), (user, [anna])] :=
    Except.ok.inj ((stored_of_make hs .filters).symm.trans rfl)
  have hperm : ([about, anna] ++ [home]).Perm (s.filters.flatMap (·.2)) := by
    rw [hfilters]
    exact List.perm_append_comm
  obtain ⟨u, hu, hsu⟩ := hflat _ hperm
  exact ⟨s, t, u, hs, hkeys, ht, hst.2 (by decide +kernel), hu, hsu⟩

end Spec

end MetricQuery
