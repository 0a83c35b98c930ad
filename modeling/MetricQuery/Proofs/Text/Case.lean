import Mathlib.Algebra.GroupWithZero.Nat
import MetricQuery.Text.Case

/-!
# Lengths in lower case

The lower case of a character may depend on its neighbours, but its length does not, and it is never
empty.  So the length of a text in lower case is the sum of what its characters contribute, and a
text is longer in lower case than any proper beginning of it.  Two texts of one length in lower case
that begin a common text are therefore the same (`Text.eq_of_prefix_of_length`).

## Main definitions

* `Text.lowerWidth` : the length of a character in lower case.

## Main results

* `Text.lower_of_ascii` : the lower case of a text of plain characters.
* `Text.length_lower` : the length of a text in lower case.
* `Text.eq_of_prefix_of_length` : a beginning of one length in lower case is the whole text.
* `Text.eq_of_append_eq_append`, `String.eq_of_append_eq_append` : beginnings of a common text.
-/

namespace MetricQuery.Text

/-! ### One character -/

theorem mapCase_ne_nil {runs : List CaseRun} {expansions : List (Nat × List Nat)}
    (h : ∀ entry ∈ expansions, entry.2 ≠ []) (c : Char) : mapCase runs expansions c ≠ [] := by
  rw [mapCase]
  split
  next image himage =>
    obtain ⟨before, after, rfl, -⟩ := List.lookup_eq_some_iff.1 himage
    have himage : image ≠ [] := h (c.toNat, image) (by simp)
    simpa using himage
  next =>
    split
    · exact List.cons_ne_nil _ _
    · exact List.cons_ne_nil _ _

/-- The length of a character in lower case. -/
def lowerWidth (c : Char) : Nat :=
  (lowerChar [] c []).length

theorem length_lowerChar (before : List Char) (c : Char) (after : List Char) :
    (lowerChar before c after).length = lowerWidth c := by
  rw [lowerWidth, lowerChar, lowerChar]
  split
  · rfl
  split <;> rfl

theorem lowerWidth_pos (c : Char) : 0 < lowerWidth c := by
  rw [lowerWidth, lowerChar]
  split
  · exact Nat.one_pos
  split
  · exact Nat.one_pos
  · exact List.length_pos_iff.2 (mapCase_ne_nil (by decide) c)

/-! ### Texts -/

theorem lowerAfter_of_ascii (before : List Char) {s : List Char} (h : ∀ c ∈ s, c.toNat < 0x80) :
    lowerAfter before s = s.map Char.toLower := by
  induction s generalizing before with
  | nil => rfl
  | cons c rest ih =>
      obtain ⟨hc, hrest⟩ := List.forall_mem_cons.1 h
      rw [lowerAfter, lowerChar, if_pos hc, ih _ hrest]
      rfl

/-- Below code point 128 the lower case of a text is taken character by character. -/
theorem lower_of_ascii {s : List Char} (h : ∀ c ∈ s, c.toNat < 0x80) :
    lower s = s.map Char.toLower :=
  lowerAfter_of_ascii [] h

theorem length_lowerAfter (before s : List Char) :
    (lowerAfter before s).length = (s.map lowerWidth).sum := by
  induction s generalizing before with
  | nil => rfl
  | cons c rest ih =>
      rw [lowerAfter, List.length_append, length_lowerChar, ih, List.map_cons, List.sum_cons]

/-- The length of a text in lower case is the sum of what its characters contribute. -/
theorem length_lower (s : List Char) : (lower s).length = (s.map lowerWidth).sum :=
  length_lowerAfter [] s

theorem length_lower_append (s t : List Char) :
    (lower (s ++ t)).length = (lower s).length + (lower t).length := by
  rw [length_lower, length_lower, length_lower, List.map_append, List.sum_append]

theorem length_lower_eq_zero_iff {s : List Char} : (lower s).length = 0 ↔ s = [] := by
  cases s with
  | nil => exact iff_of_true rfl rfl
  | cons c rest =>
      have hc : 0 < lowerWidth c := lowerWidth_pos c
      rw [length_lower, List.map_cons, List.sum_cons]
      exact iff_of_false (by omega) (List.cons_ne_nil c rest)

/-- A text is longer in lower case than any proper beginning of it. -/
theorem eq_of_prefix_of_length {a b : List Char} (hlower : (lower a).length = (lower b).length)
    (h : a <+: b) : a = b := by
  obtain ⟨more, rfl⟩ := h
  rw [length_lower_append] at hlower
  have hmore : more = [] := length_lower_eq_zero_iff.1 (by omega)
  rw [hmore, List.append_nil]

/-- Two beginnings of a common text are the same if they are of one length in lower case. -/
theorem eq_of_append_eq_append {a b s t : List Char}
    (hlower : (lower a).length = (lower b).length) (h : a ++ s = b ++ t) : a = b ∧ s = t := by
  have hab : a = b := by
    have ha : a <+: b ++ t := h ▸ List.prefix_append a s
    rcases List.prefix_or_prefix_of_prefix ha (List.prefix_append b t) with hab | hba
    · exact eq_of_prefix_of_length hlower hab
    · exact (eq_of_prefix_of_length hlower.symm hba).symm
  subst hab
  exact ⟨rfl, List.append_cancel_left h⟩

end MetricQuery.Text

/-- Two beginnings of a common text are the same if they are the same in lower case. -/
theorem String.eq_of_append_eq_append {a b s t : String} (hlower : a.lowerCase = b.lowerCase)
    (h : a ++ s = b ++ t) : a = b ∧ s = t := by
  have hwidth :
      (MetricQuery.Text.lower a.toList).length = (MetricQuery.Text.lower b.toList).length :=
    congrArg List.length (String.ofList_injective hlower)
  have hlist : a.toList ++ s.toList = b.toList ++ t.toList := by
    rw [← String.toList_append, ← String.toList_append, h]
  obtain ⟨hab, hst⟩ := MetricQuery.Text.eq_of_append_eq_append hwidth hlist
  exact ⟨String.toList_injective hab, String.toList_injective hst⟩
