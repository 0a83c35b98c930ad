import MetricQuery.Proofs.Text.Case

/-!
# Lower case in context

The lower case of a text that stands between two others (`Text.lowerWithin`) is read off the lower
case of the whole (`Text.lowerAfter_append`).  It has the length of the lower case of the text on
its own, and it is the same up to the capital sigmas: a sigma is final where a word ends, and the
neighbours of the text may carry on a word that the text breaks off.  So the two are equal exactly
if each capital sigma keeps its form (`Text.lowerWithin_eq_lower_iff`).

At the beginning of a text only the last capital sigma is in doubt, and the beginning reads
differently on its own exactly if it ends in the middle of a word right behind a capital sigma
(`Text.lower_prefix_iff`).

## Main definitions

* `Text.lowerWithin` : the lower case of a text between two others.
* `Text.KeepsSigmas` : the capital sigmas of a text have the same form between two others.
* `Text.CutsBehindSigma` : two texts share a word whose first part ends in a capital sigma.

## Main results

* `Text.lowerAfter_append` : the lower case of a text and a following one.
* `Text.lowerWithin_eq_lower_iff`, `Text.exists_lower_eq_iff` : when a text reads the same between
  two others.
* `Text.lower_prefix_iff` : when the lower case of a beginning is a beginning of the lower case.
-/

namespace MetricQuery.Text

/-! ### One character -/

/-- The neighbours of a character make a difference only to a capital sigma. -/
theorem lowerChar_eq_iff {c : Char} {before before' after after' : List Char} :
    lowerChar before c after = lowerChar before' c after' ↔
      (c = 'Σ' → isFinalSigma before after = isFinalSigma before' after') := by
  by_cases hc : c = 'Σ'
  · subst hc
    have hplain : ¬ 'Σ'.toNat < 0x80 := by decide
    rw [lowerChar, lowerChar, if_neg hplain, if_neg hplain, if_pos rfl, if_pos rfl]
    cases isFinalSigma before after <;> cases isFinalSigma before' after' <;> decide
  · rw [lowerChar, lowerChar, if_neg hc, if_neg hc]
    exact iff_of_true rfl fun h => absurd h hc

theorem meetsCased_cons (c : Char) (rest : List Char) :
    meetsCased (c :: rest) = if isCaseIgnorable c then meetsCased rest else isCased c := by
  cases hc : isCaseIgnorable c with
  | true => rw [meetsCased, List.dropWhile_cons_of_pos hc, if_pos rfl, meetsCased]
  | false => rw [meetsCased, List.dropWhile_cons_of_neg (by simp [hc]), if_neg Bool.false_ne_true]

/-- The search for a neighbour with case goes on behind a text that is skipped altogether. -/
theorem meetsCased_append (s t : List Char) :
    meetsCased (s ++ t) = if s.all isCaseIgnorable then meetsCased t else meetsCased s := by
  induction s with
  | nil => rfl
  | cons c rest ih =>
      rw [List.cons_append, meetsCased_cons, meetsCased_cons, ih, List.all_cons]
      cases isCaseIgnorable c <;> rfl

theorem meetsCased_of_all {s : List Char} (h : s.all isCaseIgnorable = true) :
    meetsCased s = false := by
  have hs := meetsCased_append s []
  rw [List.append_nil, if_pos h] at hs
  exact hs

/-! ### A text between two others -/

/-- The lower case of a text between two others, the first of them reversed. -/
def lowerWithin (before : List Char) : List Char → List Char → List Char
  | [], _ => []
  | c :: rest, after => lowerChar before c (rest ++ after) ++ lowerWithin (c :: before) rest after

theorem lowerWithin_nil (before s : List Char) : lowerWithin before s [] = lowerAfter before s := by
  induction s generalizing before with
  | nil => rfl
  | cons c rest ih => rw [lowerWithin, lowerAfter, ih, List.append_nil]

/-- In the lower case of two texts that follow each other, each one is read in its context. -/
theorem lowerAfter_append (before s t : List Char) :
    lowerAfter before (s ++ t) = lowerWithin before s t ++ lowerAfter (s.reverse ++ before) t := by
  induction s generalizing before with
  | nil => rfl
  | cons c rest ih =>
      rw [List.cons_append, lowerAfter, ih, lowerWithin, List.append_assoc, List.reverse_cons,
        List.append_assoc, List.singleton_append]

theorem length_lowerWithin (before s after : List Char) :
    (lowerWithin before s after).length = (lower s).length := by
  rw [length_lower]
  induction s generalizing before with
  | nil => rfl
  | cons c rest ih =>
      rw [lowerWithin, List.length_append, length_lowerChar, ih, List.map_cons, List.sum_cons]

/-- The capital sigmas of a text have the same form between one pair of texts as between another.
The texts in front are reversed. -/
def SameSigmas (before after before' after' s : List Char) : Prop :=
  ∀ u v, s = u ++ 'Σ' :: v →
    isFinalSigma (u.reverse ++ before) (v ++ after) =
      isFinalSigma (u.reverse ++ before') (v ++ after')

theorem sameSigmas_cons_iff {before after before' after' : List Char} {c : Char}
    {rest : List Char} :
    SameSigmas before after before' after' (c :: rest) ↔
      (c = 'Σ' → isFinalSigma before (rest ++ after) = isFinalSigma before' (rest ++ after')) ∧
        SameSigmas (c :: before) after (c :: before') after' rest := by
  constructor
  · intro h
    refine ⟨fun hc => h [] rest (by rw [hc, List.nil_append]), fun u v hrest => ?_⟩
    have hu := h (c :: u) v (by rw [hrest, List.cons_append])
    simpa only [List.reverse_cons, List.append_assoc, List.singleton_append] using hu
  · rintro ⟨hfirst, hrest⟩ u v huv
    cases u with
    | nil =>
        obtain ⟨hc, rfl⟩ := List.cons.inj huv
        exact hfirst hc
    | cons d u =>
        obtain ⟨rfl, hu⟩ := List.cons.inj huv
        simpa only [List.reverse_cons, List.append_assoc, List.singleton_append] using hrest u v hu

/-- A text reads the same between two pairs of texts exactly if its capital sigmas do. -/
theorem lowerWithin_eq_iff {before after before' after' s : List Char} :
    lowerWithin before s after = lowerWithin before' s after' ↔
      SameSigmas before after before' after' s := by
  induction s generalizing before before' with
  | nil => exact iff_of_true rfl fun u v h => absurd h.symm (by simp)
  | cons c rest ih =>
      have hwidth : (lowerChar before c (rest ++ after)).length =
          (lowerChar before' c (rest ++ after')).length := by
        rw [length_lowerChar, length_lowerChar]
      rw [sameSigmas_cons_iff, ← ih, ← lowerChar_eq_iff, lowerWithin, lowerWithin]
      exact ⟨fun h => List.append_inj h hwidth, fun h => congrArg₂ (· ++ ·) h.1 h.2⟩

/-- The capital sigmas of a text have the same form between two others as they have without them. -/
def KeepsSigmas (before s after : List Char) : Prop :=
  SameSigmas before.reverse after [] [] s

/-- A text reads the same between two others exactly if its capital sigmas keep their form. -/
theorem lowerWithin_eq_lower_iff {before s after : List Char} :
    lowerWithin before.reverse s after = lower s ↔ KeepsSigmas before s after := by
  rw [lower, ← lowerWithin_nil, lowerWithin_eq_iff, KeepsSigmas]

theorem KeepsSigmas.of_notMem {before s after : List Char} (h : 'Σ' ∉ s) :
    KeepsSigmas before s after := by
  rintro u v rfl
  exact absurd (List.mem_append_right u List.mem_cons_self) h

/-- In the lower case of a text each part of it stands, in lower case, at its own place exactly if
its capital sigmas keep their form. -/
theorem exists_lower_eq_iff {before s after : List Char} :
    (∃ x y, lower (before ++ s ++ after) = x ++ lower s ++ y ∧
      x.length = (lower before).length) ↔ KeepsSigmas before s after := by
  have hwhole : lower (before ++ s ++ after) = lowerWithin [] before (s ++ after) ++
      lowerWithin before.reverse s after ++
      lowerAfter (s.reverse ++ before.reverse) after := by
    rw [List.append_assoc, lower, lowerAfter_append, lowerAfter_append, List.append_nil,
      List.append_assoc]
  rw [← lowerWithin_eq_lower_iff, hwhole]
  constructor
  · rintro ⟨x, y, h, hx⟩
    rw [List.append_assoc, List.append_assoc] at h
    have hbefore := length_lowerWithin [] before (s ++ after)
    obtain ⟨-, h⟩ := List.append_inj h (hbefore.trans hx.symm)
    exact (List.append_inj h (length_lowerWithin ..)).1
  · intro h
    exact ⟨_, _, by rw [h], length_lowerWithin ..⟩

/-! ### A text at the beginning of another -/

/-- A word goes on from one text to the next one, and a capital sigma that has a part of the word in
front of it is the last character with case of the first text. -/
def CutsBehindSigma (s t : List Char) : Prop :=
  ∃ u v, s = u ++ 'Σ' :: v ∧ meetsCased u.reverse = true ∧ v.all isCaseIgnorable = true ∧
    meetsCased t = true

theorem CutsBehindSigma.mem {s t : List Char} (h : CutsBehindSigma s t) : 'Σ' ∈ s := by
  obtain ⟨u, v, rfl, -⟩ := h
  exact List.mem_append_right u List.mem_cons_self

/-- What follows takes the form of a final sigma away exactly from a sigma that ends its word but
for the text that follows. -/
theorem isFinalSigma_append_iff {before v t : List Char} :
    isFinalSigma before (v ++ t) = isFinalSigma before v ↔
      ¬ (meetsCased before = true ∧ v.all isCaseIgnorable = true ∧ meetsCased t = true) := by
  rw [isFinalSigma, isFinalSigma, meetsCased_append]
  cases hv : v.all isCaseIgnorable with
  | true =>
      rw [if_pos rfl, meetsCased_of_all hv]
      cases meetsCased before <;> cases meetsCased t <;> decide
  | false => exact iff_of_true rfl fun h => nomatch h.2.1

theorem keepsSigmas_beginning_iff {s t : List Char} :
    KeepsSigmas [] s t ↔ ¬ CutsBehindSigma s t := by
  simp only [KeepsSigmas, SameSigmas, List.reverse_nil, List.append_nil, isFinalSigma_append_iff,
    CutsBehindSigma, not_exists, not_and]

/-- The lower case of a text begins with that of its beginning exactly if the beginning does not
end in the middle of a word right behind a capital sigma. -/
theorem lower_prefix_iff {s t : List Char} :
    lower s <+: lower (s ++ t) ↔ ¬ CutsBehindSigma s t := by
  rw [← keepsSigmas_beginning_iff, ← lowerWithin_eq_lower_iff, List.reverse_nil,
    lower.eq_1 (s ++ t), lowerAfter_append]
  constructor
  · intro h
    have hwithin : lowerWithin [] s t <+:
        lowerWithin [] s t ++ lowerAfter (s.reverse ++ []) t := List.prefix_append ..
    have hlength := length_lowerWithin [] s t
    exact (List.prefix_of_prefix_length_le hwithin h (Nat.le_of_eq hlength)).eq_of_length hlength
  · intro h
    rw [h]
    exact List.prefix_append ..

end MetricQuery.Text
