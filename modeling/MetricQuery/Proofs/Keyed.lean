import Mathlib.Data.List.Induction
import Mathlib.Data.List.Nodup
import MetricQuery.Keyed

/-!
# Look-up in maps

A map is a list of entries, and its keys are meant to be pairwise different.  With such keys a value
is found under a key exactly if the two form an entry (`Keyed.get?_eq_some_iff`), so look-up does
not see the order of the entries (`Keyed.get?_perm`).

## Main results

* `Keyed.has_iff` : the keys that are present.
* `Keyed.get?_append` : look-up in two maps behind each other.
* `Keyed.find?_key` : the first key that passes a test.
* `Keyed.get?_put_self`, `Keyed.get?_put_of_ne`, `Keyed.keys_put`, `Keyed.keys_put_of_mem`,
  `Keyed.put_of_notMem` : a value put under a key.
* `Keyed.ofList_of_nodup`, `Keyed.keys_ofList`, `Keyed.get?_ofList_eq_some_iff` : the map of a
  list of entries.
* `Keyed.get?_erase_self`, `Keyed.get?_erase_of_ne`, `Keyed.keys_erase` : a key removed.
* `Keyed.get?_eq_some_iff`, `Keyed.get?_perm`, `Keyed.eq_of_get?_eq` : look-up in maps with
  different keys.
-/

namespace MetricQuery

namespace Keyed

variable {κ ν μ : Type} [BEq κ]

theorem get?_append (m m' : Keyed κ ν) (key : κ) :
    get? (m ++ m') key = (get? m key).or (get? m' key) := by
  rw [get?, List.find?_append]
  cases hm : m.find? fun entry => entry.1 == key with
  | none => simp only [get?, hm, Option.none_or, Option.map_none]
  | some entry => simp only [get?, hm, Option.some_or, Option.map_some]

theorem get?_map (g : ν → μ) (m : Keyed κ ν) (key : κ) :
    get? (m.map fun entry => (entry.1, g entry.2)) key = (get? m key).map g := by
  simp only [get?, List.find?_map, Option.map_map]
  rfl

omit [BEq κ] in
theorem keys_append_map (m : Keyed κ ν) (new : List κ) (value : ν) :
    keys (m ++ new.map (·, value)) = keys m ++ new := by
  simp [keys, Function.comp_def]

/-- A map keeps the key that it has under an equal one. -/
theorem keys_put (m : Keyed κ ν) (key : κ) (value : ν) :
    keys (put m key value) = keys m ++ if (keys m).any (· == key) then [] else [key] := by
  induction m with
  | nil => rfl
  | cons entry rest ih =>
      obtain ⟨k, v⟩ := entry
      have hkeys : keys ((k, v) :: rest) = k :: keys rest := rfl
      rw [put, hkeys, List.any_cons]
      cases k == key with
      | true => simp [keys]
      | false =>
          rw [if_neg Bool.false_ne_true, Bool.false_or, List.cons_append, ← ih]
          rfl

variable [LawfulBEq κ]

theorem has_iff {m : Keyed κ ν} {key : κ} : has m key = true ↔ key ∈ keys m := by
  simp only [has, keys, List.any_eq_true, List.mem_map, beq_iff_eq]

/-- Nothing is found under a key exactly if it is absent. -/
theorem get?_eq_none_iff {m : Keyed κ ν} {key : κ} : get? m key = none ↔ key ∉ keys m := by
  rw [get?, Option.map_eq_none_iff, List.find?_eq_none]
  simp only [beq_iff_eq, keys, List.mem_map, not_exists, not_and]

theorem exists_get?_of_mem {m : Keyed κ ν} {key : κ} (h : key ∈ keys m) :
    ∃ value, get? m key = some value :=
  Option.ne_none_iff_exists'.1 fun hnone => get?_eq_none_iff.1 hnone h

/-- The first entry whose key passes a test is the one under the first such key. -/
theorem find?_key (test : κ → Bool) (m : Keyed κ ν) :
    (m.find? fun entry => test entry.1).map (·.2) = ((keys m).find? test).bind (get? m) := by
  induction m with
  | nil => rfl
  | cons entry rest ih =>
      obtain ⟨k, v⟩ := entry
      cases hk : test k with
      | true => simp [keys, get?, hk]
      | false =>
          have hkeys : keys ((k, v) :: rest) = k :: keys rest := rfl
          rw [List.find?_cons_of_neg (by simp [hk]), ih, hkeys,
            List.find?_cons_of_neg (by simp [hk])]
          refine Option.bind_congr fun key hkey => ?_
          have hne : (k == key) = false := by
            rw [beq_eq_false_iff_ne]
            rintro rfl
            exact absurd (List.find?_some hkey) (by simp [hk])
          rw [get?, get?, List.find?_cons, hne]

/-! ### A value put under a key -/

theorem get?_put_self (m : Keyed κ ν) (key : κ) (value : ν) :
    get? (put m key value) key = some value := by
  induction m with
  | nil => simp [put, get?]
  | cons entry rest ih =>
      obtain ⟨k, v⟩ := entry
      rw [put]
      by_cases hk : k = key
      · simp [hk, get?]
      · simpa [hk, get?] using ih

theorem get?_put_of_ne {key other : κ} (h : other ≠ key) (m : Keyed κ ν) (value : ν) :
    get? (put m key value) other = get? m other := by
  have hne : (key == other) = false := beq_eq_false_iff_ne.2 (Ne.symm h)
  induction m with
  | nil => simp [put, get?, hne]
  | cons entry rest ih =>
      obtain ⟨k, v⟩ := entry
      rw [put]
      by_cases hk : k = key
      · simp [hk, get?, hne]
      · by_cases hko : k = other
        · simp [hko, h, get?]
        · simpa [hk, hko, get?] using ih

/-- A value put where it is already changes nothing. -/
theorem put_eq_self {m : Keyed κ ν} {key : κ} {value : ν} (h : get? m key = some value) :
    put m key value = m := by
  induction m with
  | nil => exact nomatch h
  | cons entry rest ih =>
      obtain ⟨k, v⟩ := entry
      by_cases hk : k = key
      · subst hk
        have hv : v = value := by simpa [get?] using h
        simp [put, hv]
      · have hrest : get? rest key = some value := by simpa [get?, hk] using h
        simp [put, hk, ih hrest]

/-- Of two values put under a key one after the other the second one counts. -/
theorem put_put (m : Keyed κ ν) (key : κ) (value value' : ν) :
    put (put m key value) key value' = put m key value' := by
  induction m with
  | nil => simp [put]
  | cons entry rest ih =>
      obtain ⟨k, v⟩ := entry
      by_cases hk : k = key
      · simp [put, hk]
      · simp [put, hk, ih]

/-- A value put under a key that is present leaves the keys as they are. -/
theorem keys_put_of_mem {m : Keyed κ ν} {key : κ} (h : key ∈ keys m) (value : ν) :
    keys (put m key value) = keys m := by
  induction m with
  | nil => exact absurd h List.not_mem_nil
  | cons entry rest ih =>
      obtain ⟨k, v⟩ := entry
      rw [put]
      by_cases hk : k = key
      · simp [hk, keys]
      · have hrest : key ∈ keys rest := (List.mem_cons.1 h).resolve_left (Ne.symm hk)
        simpa [hk, keys] using ih hrest

/-- An entry with a new key stands at the end. -/
theorem put_of_notMem {m : Keyed κ ν} {key : κ} (h : key ∉ keys m) (value : ν) :
    put m key value = m ++ [(key, value)] := by
  induction m with
  | nil => rfl
  | cons entry rest ih =>
      obtain ⟨k, v⟩ := entry
      rw [keys, List.map_cons, List.mem_cons, not_or] at h
      obtain ⟨hk, hrest⟩ := h
      rw [put, beq_eq_false_iff_ne.2 (Ne.symm hk)]
      exact congrArg ((k, v) :: ·) (ih hrest)

theorem keys_put_of_notMem {m : Keyed κ ν} {key : κ} (h : key ∉ keys m) (value : ν) :
    keys (put m key value) = keys m ++ [key] := by
  rw [put_of_notMem h, keys, List.map_append]
  rfl

/-- Entries with different keys are a map as they stand. -/
theorem ofList_of_nodup {entries : List (κ × ν)} (h : (keys entries).Nodup) :
    ofList entries = entries := by
  induction entries using List.reverseRecOn with
  | nil => rfl
  | append_singleton entries entry ih =>
      obtain ⟨key, value⟩ := entry
      have hkeys : keys (entries ++ [(key, value)]) = (keys entries).concat key := by
        rw [keys, List.map_append, List.concat_eq_append]
        rfl
      obtain ⟨hnew, hentries⟩ := (List.nodup_concat _ _).1 (hkeys ▸ h)
      calc
        ofList (entries ++ [(key, value)]) = put (ofList entries) key value := List.foldl_concat ..
        _ = put entries key value := by rw [ih hentries]
        _ = entries ++ [(key, value)] := put_of_notMem hnew value

/-- The keys of the map of a list of entries are those of the entries, each at its first place. -/
theorem keys_ofList (entries : List (κ × ν)) :
    keys (ofList entries) = (keys entries).eraseDups := by
  induction entries using List.reverseRecOn with
  | nil => rfl
  | append_singleton entries entry ih =>
      have hlast : ofList (entries ++ [entry]) = put (ofList entries) entry.1 entry.2 :=
        List.foldl_concat ..
      have hkeys : keys (entries ++ [entry]) = keys entries ++ [entry.1] := List.map_append
      rw [hlast, hkeys, List.eraseDups_append]
      by_cases hmem : entry.1 ∈ keys entries
      · have hold : entry.1 ∈ keys (ofList entries) := by rwa [ih, List.mem_eraseDups]
        simp [keys_put_of_mem hold, ih, List.removeAll, hmem]
      · have hnew : entry.1 ∉ keys (ofList entries) := by rwa [ih, List.mem_eraseDups]
        simp [keys_put_of_notMem hnew, ih, List.removeAll, hmem, List.eraseDups_cons]

/-- Of the entries with one key the last one counts. -/
theorem get?_ofList (entries : List (κ × ν)) (key : κ) :
    get? (ofList entries) key = get? entries.reverse key := by
  induction entries using List.reverseRecOn with
  | nil => rfl
  | append_singleton entries entry ih =>
      have hlast : ofList (entries ++ [entry]) = put (ofList entries) entry.1 entry.2 :=
        List.foldl_concat ..
      rw [hlast, List.reverse_append]
      by_cases hkey : key = entry.1
      · rw [hkey, get?_put_self]
        simp [get?]
      · have hne : (entry.1 == key) = false := beq_eq_false_iff_ne.2 (Ne.symm hkey)
        rw [get?_put_of_ne hkey, ih]
        simp [get?, hne]

/-- The value under a key of the map of a list of entries is that of the last entry with the key. -/
theorem get?_ofList_eq_some_iff {entries : List (κ × ν)} {key : κ} {value : ν} :
    get? (ofList entries) key = some value ↔
      ∃ before after, entries = before ++ (key, value) :: after ∧ key ∉ keys after := by
  rw [get?_ofList, get?, Option.map_eq_some_iff]
  simp only [List.find?_eq_some_iff_append, beq_iff_eq, Bool.not_eq_true', beq_eq_false_iff_ne]
  constructor
  · rintro ⟨⟨_, _⟩, ⟨rfl, after, before, hentries, hafter⟩, rfl⟩
    refine ⟨before.reverse, after.reverse, by simpa using congrArg List.reverse hentries, ?_⟩
    simpa [keys] using fun v hv => hafter (_, v) hv rfl
  · rintro ⟨before, after, rfl, hafter⟩
    refine ⟨(key, value), ⟨rfl, after.reverse, before.reverse, by simp, fun e he hkey => ?_⟩, rfl⟩
    exact hafter (List.mem_map.2 ⟨e, List.mem_reverse.1 he, hkey⟩)

/-! ### A key removed -/

omit [LawfulBEq κ] in
theorem keys_erase (m : Keyed κ ν) (key : κ) : keys (erase m key) = (keys m).filter (· != key) := by
  rw [keys, erase, keys, List.filter_map]
  rfl

theorem get?_erase_self (m : Keyed κ ν) (key : κ) : get? (erase m key) key = none := by
  rw [get?_eq_none_iff, keys_erase]
  exact fun h => by simpa using (List.mem_filter.1 h).2

theorem get?_erase_of_ne {key other : κ} (h : other ≠ key) (m : Keyed κ ν) :
    get? (erase m key) other = get? m other := by
  rw [get?, erase, List.find?_filter, get?]
  congr 2
  funext entry
  by_cases hother : entry.1 = other
  · simp [hother, h]
  · simp [hother]

/-! ### Maps with different keys -/

theorem mem_of_get?_eq_some {m : Keyed κ ν} {key : κ} {value : ν} (h : get? m key = some value) :
    (key, value) ∈ m := by
  obtain ⟨entry, hentry, rfl⟩ := Option.map_eq_some_iff.1 h
  have hkey : entry.1 = key := by simpa using List.find?_some hentry
  rw [← hkey]
  exact List.mem_of_find?_eq_some hentry

/-- In a map with different keys a value is found under a key exactly if the two are an entry. -/
theorem get?_eq_some_iff {m : Keyed κ ν} (hm : (keys m).Nodup) {key : κ} {value : ν} :
    get? m key = some value ↔ (key, value) ∈ m := by
  refine ⟨mem_of_get?_eq_some, fun h => ?_⟩
  induction m with
  | nil => exact absurd h List.not_mem_nil
  | cons entry rest ih =>
      obtain ⟨hentry, hrest⟩ := List.nodup_cons.1 hm
      rw [get?, List.find?_cons]
      rcases List.mem_cons.1 h with rfl | hmem
      · rw [beq_self_eq_true]
        rfl
      · have hne : entry.1 ≠ key := fun hkey =>
          hentry (List.mem_map.2 ⟨(key, value), hmem, hkey.symm⟩)
        rw [beq_eq_false_iff_ne.2 hne]
        exact ih hrest hmem

/-- Look-up does not see the order of the entries. -/
theorem get?_perm {m m' : Keyed κ ν} (h : m.Perm m') (hm : (keys m).Nodup) (key : κ) :
    get? m key = get? m' key := by
  have hm' : (keys m').Nodup := (h.map Prod.fst).nodup_iff.1 hm
  refine Option.ext fun value => ?_
  rw [get?_eq_some_iff hm, get?_eq_some_iff hm', h.mem_iff]

/-- Maps with the same different keys and the same value under each are equal. -/
theorem eq_of_get?_eq {m m' : Keyed κ ν} (hkeys : keys m = keys m') (hm : (keys m).Nodup)
    (hget : ∀ key, get? m key = get? m' key) : m = m' := by
  have hlength : m.length = m'.length := by simpa [keys] using congrArg List.length hkeys
  refine List.ext_getElem hlength fun i hi hi' => ?_
  have hkey : m[i].1 = m'[i].1 := by
    have hkeys_i := List.getElem_of_eq hkeys (i := i) (by simpa [keys] using hi)
    simpa [keys] using hkeys_i
  have hvalue : get? m m[i].1 = some m[i].2 := (get?_eq_some_iff hm).2 (List.getElem_mem hi)
  have hvalue' : get? m' m'[i].1 = some m'[i].2 :=
    (get?_eq_some_iff (hkeys ▸ hm)).2 (List.getElem_mem hi')
  rw [hget, hkey] at hvalue
  exact Prod.ext hkey (Option.some.inj (hvalue.symm.trans hvalue'))

end Keyed

end MetricQuery
