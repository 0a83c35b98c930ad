import Mathlib.Data.List.Infix
import MetricQuery.Setup.Log

/-!
# Dotted names

A name stands above another one if the other one continues it with a dot.  As long as no two dots
stand side by side, the names above one are found from its dots, back to front
(`LogTree.mem_above_iff`), and the names above one of them are those that are found behind it
(`LogTree.above_of_eq_append`).

## Main definitions

* `LogTree.IsAbove` : a name that another one continues with a dot.
* `LogTree.Undoubled` : the names without two dots side by side.
* `LogTree.way` : a name, the names above it and the root.

## Main results

* `LogTree.mem_above_iff`, `LogTree.pairwise_above` : the names above one, the longest first.
* `LogTree.above_of_eq_append` : the names above one that stands above.
* `LogTree.isAbove_of_length_lt` : of two names above one the shorter stands above the longer.
-/

namespace MetricQuery.LogTree

/-! ### Parts in front of dots -/

/-- Two dots side by side. -/
abbrev twoDots : List Char := ['.', '.']

section Parts

variable {s part : List Char} {before after : List (List Char)} {afterDot : Bool}

/-- A part in front of a dot is shorter than the text. -/
theorem length_of_mem_partsBeforeDots (h : part ∈ partsBeforeDots afterDot s) :
    part.length < s.length := by
  induction s generalizing afterDot with
  | nil => exact absurd h List.not_mem_nil
  | cons c rest ih =>
      rw [partsBeforeDots] at h
      split at h
      · rcases List.mem_cons.1 h with rfl | h
        · exact Nat.lt_succ_self _
        · exact (ih h).trans (Nat.lt_succ_self _)
      · exact (ih h).trans (Nat.lt_succ_self _)

/-- Parts in front of dots stand in the order of their lengths, the longest first. -/
theorem pairwise_partsBeforeDots (afterDot : Bool) (s : List Char) :
    (partsBeforeDots afterDot s).Pairwise fun p q => q.length < p.length := by
  induction s generalizing afterDot with
  | nil => exact .nil
  | cons c rest ih =>
      rw [partsBeforeDots]
      split
      · exact .cons (fun _ => length_of_mem_partsBeforeDots) (ih true)
      · exact ih false

/-- Behind a dot that stands alone, the search goes on as at the start. -/
theorem partsBeforeDots_behind (h : ¬twoDots <:+: '.' :: s) :
    partsBeforeDots true s = partsBeforeDots false s := by
  cases s with
  | nil => rfl
  | cons c rest =>
      have hc : c ≠ '.' := by
        rintro rfl
        exact h (List.prefix_append twoDots rest).isInfix
      simp [partsBeforeDots, hc]

theorem undoubled_tail {c : Char} (h : ¬twoDots <:+: c :: s) : ¬twoDots <:+: s :=
  fun hs => h (hs.trans (List.suffix_cons c s).isInfix)

theorem partsBeforeDots_dot (h : ¬twoDots <:+: '.' :: s) (hs : s ≠ []) :
    partsBeforeDots false ('.' :: s) = s :: partsBeforeDots false s := by
  rw [partsBeforeDots, if_pos ⟨rfl, rfl, hs⟩, partsBeforeDots_behind h]

theorem partsBeforeDots_other {c : Char} (hc : ¬(c = '.' ∧ s ≠ [])) :
    partsBeforeDots false (c :: s) = partsBeforeDots false s := by
  rw [partsBeforeDots, if_neg fun h => hc ⟨h.1, h.2.2⟩]

/-- The parts in front of dots, where no two dots stand side by side. -/
theorem mem_partsBeforeDots_iff (h : ¬twoDots <:+: s) :
    part ∈ partsBeforeDots false s ↔ part ≠ [] ∧ '.' :: part <:+ s := by
  induction s with
  | nil => simp [partsBeforeDots]
  | cons c rest ih =>
      rw [List.suffix_cons_iff, List.cons.injEq]
      by_cases hdot : c = '.' ∧ rest ≠ []
      · obtain ⟨rfl, hrest⟩ := hdot
        rw [partsBeforeDots_dot h hrest, List.mem_cons, ih (undoubled_tail h)]
        constructor
        · rintro (rfl | ⟨hne, hsuffix⟩)
          · exact ⟨hrest, .inl ⟨rfl, rfl⟩⟩
          · exact ⟨hne, .inr hsuffix⟩
        · rintro ⟨hne, ⟨-, rfl⟩ | hsuffix⟩
          · exact .inl rfl
          · exact .inr ⟨hne, hsuffix⟩
      · rw [partsBeforeDots_other hdot, ih (undoubled_tail h)]
        refine and_congr_right fun hne => ⟨.inr, ?_⟩
        rintro (⟨rfl, rfl⟩ | hsuffix)
        · exact absurd ⟨rfl, hne⟩ hdot
        · exact hsuffix

/-- The parts of a part in front of a dot are those that are found behind it. -/
theorem partsBeforeDots_of_eq_append (h : ¬twoDots <:+: s)
    (hs : partsBeforeDots false s = before ++ part :: after) :
    partsBeforeDots false part = after := by
  induction s generalizing before with
  | nil => simp [partsBeforeDots] at hs
  | cons c rest ih =>
      by_cases hdot : c = '.' ∧ rest ≠ []
      · obtain ⟨rfl, hrest⟩ := hdot
        rw [partsBeforeDots_dot h hrest] at hs
        cases before with
        | nil =>
            obtain ⟨rfl, rfl⟩ := List.cons.inj hs
            rfl
        | cons first before => exact ih (undoubled_tail h) (List.cons.inj hs).2
      · rw [partsBeforeDots_other hdot] at hs
        exact ih (undoubled_tail h) hs

end Parts

/-! ### Names above a name -/

/-- A name stands above another one if the other one continues it with a dot. -/
def IsAbove (upper name : String) : Prop :=
  upper ≠ "" ∧ ∃ rest, name = upper ++ "." ++ rest

/-- No two dots stand side by side. -/
def Undoubled (name : String) : Prop :=
  ¬twoDots <:+: name.toList

instance (name : String) : Decidable (Undoubled name) :=
  inferInstanceAs (Decidable (¬twoDots <:+: name.toList))

/-- The names from one up to the root, whether they came up or not. -/
def way (name : String) : List String :=
  if name = "" then [""] else name :: above name ++ [""]

theorem way_of_ne {name : String} (h : name ≠ "") : way name = name :: (above name ++ [""]) :=
  if_neg h

section Above

variable {name upper lower : String} {before after : List String}

/-- A name with a dot in it is undoubled if the text up to a dot is. -/
theorem Undoubled.of_isAbove (h : Undoubled name) (hupper : IsAbove upper name) :
    Undoubled upper := by
  obtain ⟨-, rest, rfl⟩ := hupper
  refine fun hdots => h (hdots.trans ?_)
  rw [String.toList_append, String.toList_append, List.append_assoc]
  exact (List.prefix_append ..).isInfix

theorem mem_above_iff_mem_parts :
    upper ∈ above name ↔ upper.toList.reverse ∈ partsBeforeDots false name.toList.reverse := by
  rw [above, List.mem_map]
  constructor
  · rintro ⟨part, hpart, rfl⟩
    rwa [String.toList_ofList, List.reverse_reverse]
  · exact fun h => ⟨_, h, by rw [List.reverse_reverse, String.ofList_toList]⟩

/-- A name above another one is shorter. -/
theorem length_of_mem_above (h : upper ∈ above name) : upper.length < name.length := by
  simpa [String.length_toList] using length_of_mem_partsBeforeDots (mem_above_iff_mem_parts.1 h)

theorem pairwise_above (name : String) :
    (above name).Pairwise fun lower upper => upper.length < lower.length := by
  rw [above, List.pairwise_map]
  simpa using pairwise_partsBeforeDots false name.toList.reverse

theorem undoubled_reverse (h : Undoubled name) : ¬twoDots <:+: name.toList.reverse := by
  rw [← List.reverse_infix, List.reverse_reverse]
  exact h

/-- The names that are found from the dots of a name are those above it. -/
theorem mem_above_iff (h : Undoubled name) : upper ∈ above name ↔ IsAbove upper name := by
  have hsuffix : '.' :: upper.toList.reverse <:+ name.toList.reverse ↔
      ∃ rest, name = upper ++ "." ++ rest := by
    rw [← List.reverse_prefix, List.reverse_cons, List.reverse_reverse, List.reverse_reverse]
    constructor
    · rintro ⟨rest, hrest⟩
      refine ⟨String.ofList rest, String.toList_injective ?_⟩
      simpa using hrest.symm
    · rintro ⟨rest, rfl⟩
      exact ⟨rest.toList, by simp⟩
  rw [mem_above_iff_mem_parts, mem_partsBeforeDots_iff (undoubled_reverse h), hsuffix, IsAbove,
    ne_eq, List.reverse_eq_nil_iff, String.toList_eq_nil_iff]

/-- The names above one that stands above another one are those that are found behind it. -/
theorem above_of_eq_append (h : Undoubled name) (habove : above name = before ++ upper :: after) :
    above upper = after := by
  rw [above, List.map_eq_append_iff] at habove
  obtain ⟨front, behind, hparts, rfl, hbehind⟩ := habove
  obtain ⟨part, rest, rfl, rfl, rfl⟩ := List.map_eq_cons_iff.1 hbehind
  rw [above, String.toList_ofList, List.reverse_reverse,
    partsBeforeDots_of_eq_append (undoubled_reverse h) hparts]

/-- Of two names above one the shorter stands above the longer. -/
theorem isAbove_of_length_lt (h : Undoubled name) (hlower : lower ∈ above name)
    (hupper : upper ∈ above name) (hlength : upper.length < lower.length) :
    IsAbove upper lower := by
  obtain ⟨before, after, habove⟩ := List.append_of_mem hlower
  have hpairwise := pairwise_above name
  rw [habove, List.pairwise_append] at hpairwise
  rw [habove] at hupper
  rcases List.mem_append.1 hupper with hbefore | hbehind
  · have hlonger := hpairwise.2.2 upper hbefore lower List.mem_cons_self
    omega
  · rcases List.mem_cons.1 hbehind with rfl | hafter
    · omega
    · rw [← above_of_eq_append h habove] at hafter
      exact (mem_above_iff (h.of_isAbove ((mem_above_iff h).1 hlower))).1 hafter

theorem ne_of_isAbove (h : IsAbove upper name) : name ≠ "" := by
  obtain ⟨-, rest, rfl⟩ := h
  simp

/-- On the way up stand a name, the names above it and the root. -/
theorem mem_way_iff (h : Undoubled name) :
    upper ∈ way name ↔ upper = name ∨ IsAbove upper name ∨ upper = "" := by
  rw [way]
  split
  case isTrue hname =>
    have hnone : ¬IsAbove upper name := fun habove => ne_of_isAbove habove hname
    simp [hname ▸ hnone, hname]
  case isFalse => simp [mem_above_iff h]

/-- The names on the way up get shorter. -/
theorem pairwise_way (h : Undoubled name) :
    (way name).Pairwise fun lower upper => upper.length < lower.length := by
  rw [way]
  split
  · exact List.pairwise_singleton ..
  case isFalse hname =>
    have hlength : ∀ upper : String, upper ≠ "" → 0 < upper.length := fun upper hupper =>
      Nat.pos_of_ne_zero (mt String.length_eq_zero_iff.1 hupper)
    refine List.pairwise_append.2 ⟨.cons (fun _ => length_of_mem_above) (pairwise_above name),
      List.pairwise_singleton .., fun lower hlower root hroot => ?_⟩
    rw [List.mem_singleton.1 hroot]
    rcases List.mem_cons.1 hlower with rfl | hlower
    · exact hlength lower hname
    · exact hlength lower ((mem_above_iff h).1 hlower).1

end Above

end MetricQuery.LogTree
