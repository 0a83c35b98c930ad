import MetricQuery.Proofs.Text.Sigma
import MetricQuery.Rows.Store

/-!
# Search for keys

A provider finds the keys of its store that start with one text and contain another, all three in
lower case.  What it finds are some of the keys, in their order.  A key that starts with the one
text and contains the other as they are written is found as well, but for capital sigmas: these
become a final sigma at the end of a word, and so the lower case of a text that stands in the middle
of a word need not be a part of the lower case of the word.  Under the start `ΑΣ`, in lower case
`ας`, the key `ΑΣΑ`, in lower case `ασα`, is missed.

## Main results

* `Rows.mem_matching_iff` : the keys that a provider finds.
* `Rows.mem_matching_iff_of_literal` : which keys are found that have the two texts as they are
  written.
* `Rows.matching_misses_literal` : keys that are missed.
-/

namespace MetricQuery

theorem occursIn_iff {part s : List Char} : occursIn part s = true ↔ part <:+: s := by
  induction s with
  | nil => rw [occursIn, List.isEmpty_iff, List.infix_nil]
  | cons c rest ih =>
      rw [occursIn, Bool.or_eq_true, List.isPrefixOf_iff_prefix, ih, List.infix_cons_iff]

theorem matchesKey_iff {start part key : String} :
    matchesKey start part key = true ↔
      start.lowerCase.toList <+: key.lowerCase.toList ∧
        part.lowerCase.toList <:+: key.lowerCase.toList := by
  rw [matchesKey, Bool.and_eq_true, List.isPrefixOf_iff_prefix, occursIn_iff]

namespace Rows

variable {rows : Rows} {provider start part key : String}

theorem mem_matching_iff :
    key ∈ rows.matching provider start part ↔
      key ∈ rows.keysOf provider ∧ start.lowerCase.toList <+: key.lowerCase.toList ∧
        part.lowerCase.toList <:+: key.lowerCase.toList := by
  rw [matching, List.mem_filter, matchesKey_iff]

/-- **Keys that have the two texts as they are written.**  A provider finds some of the keys of its
store, in their order.  Let a key start with the first text and contain the second one.

* It is found exactly if the first text does not end in the middle of a word right behind a capital
  sigma, and the second one is somewhere in the key in lower case.
* At the place where it is written the second text stands in lower case exactly if the key leaves
  its capital sigmas their form.
* So it is found if the first text does not break off a word behind a capital sigma and the key
  leaves the capital sigmas of the second text their form, and in particular if there are none. -/
theorem mem_matching_iff_of_literal (rows : Rows) (provider start part : String) :
    (rows.matching provider start part).Sublist (rows.keysOf provider) ∧
    ∀ key ∈ rows.keysOf provider, ∀ rest before after : String,
      key = start ++ rest → key = before ++ part ++ after →
      (key ∈ rows.matching provider start part ↔
        ¬ Text.CutsBehindSigma start.toList rest.toList ∧
          part.lowerCase.toList <:+: key.lowerCase.toList) ∧
      ((∃ x y, key.lowerCase.toList = x ++ part.lowerCase.toList ++ y ∧
          x.length = before.lowerCase.toList.length) ↔
        Text.KeepsSigmas before.toList part.toList after.toList) ∧
      (¬ Text.CutsBehindSigma start.toList rest.toList →
        Text.KeepsSigmas before.toList part.toList after.toList →
        key ∈ rows.matching provider start part) ∧
      ('Σ' ∉ start.toList → 'Σ' ∉ part.toList → key ∈ rows.matching provider start part) := by
  refine ⟨List.filter_sublist, fun key hkey rest before after hstart hpart => ?_⟩
  have hlower : ∀ s : String, s.lowerCase.toList = Text.lower s.toList :=
    fun _ => String.toList_ofList
  have hcut : start.lowerCase.toList <+: key.lowerCase.toList ↔
      ¬ Text.CutsBehindSigma start.toList rest.toList := by
    rw [hlower, hlower, hstart, String.toList_append]
    exact Text.lower_prefix_iff
  have hplace : (∃ x y, key.lowerCase.toList = x ++ part.lowerCase.toList ++ y ∧
      x.length = before.lowerCase.toList.length) ↔
      Text.KeepsSigmas before.toList part.toList after.toList := by
    simp only [hlower, hpart, String.toList_append]
    exact Text.exists_lower_eq_iff
  have hfound : key ∈ rows.matching provider start part ↔
      ¬ Text.CutsBehindSigma start.toList rest.toList ∧
        part.lowerCase.toList <:+: key.lowerCase.toList := by
    rw [mem_matching_iff, hcut]
    exact and_iff_right hkey
  have hkept : ¬ Text.CutsBehindSigma start.toList rest.toList →
      Text.KeepsSigmas before.toList part.toList after.toList →
      key ∈ rows.matching provider start part := by
    intro hnot hkeeps
    obtain ⟨x, y, hxy, -⟩ := hplace.2 hkeeps
    exact hfound.2 ⟨hnot, x, y, hxy.symm⟩
  exact ⟨hfound, hplace, hkept, fun hs hp => hkept (fun h => hs h.mem) (.of_notMem hp)⟩

/-- A key in two words is found by a start that ends with its first word. -/
theorem mem_matching_iff_of_literal_twoWords :
    let rows := (empty.put "d" "ΟΔΟΣ ΑΣ" (.text "1")).bind "d" (some "d")
    "ΟΔΟΣ ΑΣ" ∈ rows.keysOf "d" ∧ "ΟΔΟΣ ΑΣ" = "ΟΔΟΣ" ++ " ΑΣ" ∧
      "ΟΔΟΣ ΑΣ" = "ΟΔ" ++ "ΟΣ Α" ++ "Σ" ∧ "ΟΔΟΣ ΑΣ" ∈ rows.matching "d" "ΟΔΟΣ" "ΟΣ Α" := by
  intro rows
  have hkey : "ΟΔΟΣ ΑΣ" ∈ rows.keysOf "d" := by decide +kernel
  have hstart : "ΟΔΟΣ ΑΣ" = "ΟΔΟΣ" ++ " ΑΣ" := by decide
  have hpart : "ΟΔΟΣ ΑΣ" = "ΟΔ" ++ "ΟΣ Α" ++ "Σ" := by decide
  have hcut : ¬ Text.CutsBehindSigma "ΟΔΟΣ".toList " ΑΣ".toList :=
    Text.lower_prefix_iff.1 (by decide +kernel)
  have hkeeps : Text.KeepsSigmas "ΟΔ".toList "ΟΣ Α".toList "Σ".toList :=
    Text.lowerWithin_eq_lower_iff.1 (by decide +kernel)
  obtain ⟨-, hliteral⟩ := mem_matching_iff_of_literal rows "d" "ΟΔΟΣ" "ΟΣ Α"
  obtain ⟨-, -, hfound, -⟩ := hliteral _ hkey _ _ _ hstart hpart
  exact ⟨hkey, hstart, hpart, hfound hcut hkeeps⟩

/-- A key is missed that starts with a text which ends in a capital sigma, and one that contains
such a text. -/
theorem matching_misses_literal :
    let rows := (empty.put "d" "ΑΣΑ" (.text "1")).bind "d" (some "d")
    rows.keysOf "d" = ["ΑΣΑ"] ∧ "ΑΣ".toList <+: "ΑΣΑ".toList ∧
      rows.matching "d" "ΑΣ" "" = [] ∧ rows.matching "d" "" "ΑΣ" = [] := by
  decide +kernel

end Rows

end MetricQuery
