import MetricQuery.Document.Value
import MetricQuery.Proofs.Number.Integer

/-!
# Rows of digits

The digits of a number may have underscores in between, which do not count, and colons between the
parts that count sixtieths.

## Main results

* `isAsciiDigit_of_mem_dropSeams` : what is left of digits with underscores.
* `splitOn_dropSeams` : a text has the same parts with and without its underscores.
* `splitOn_append`, `mem_splitOn`, `length_splitOn` : the parts of a text.
* `row_of_isSixtieth` : the parts that count sixtieths.
-/

namespace MetricQuery.Document

open Literal (splitSign)
open Text (isAsciiDigit)

/-! ### Underscores -/

section Seams

variable {s : List Char}

theorem mem_dropSeams {c : Char} : c ∈ dropSeams s ↔ c ∈ s ∧ c ≠ '_' := by
  simp [dropSeams]

theorem dropSeams_cons_of_ne {c : Char} (h : c ≠ '_') : dropSeams (c :: s) = c :: dropSeams s :=
  List.filter_cons_of_pos (by simpa using h)

theorem dropSeams_append (s t : List Char) : dropSeams (s ++ t) = dropSeams s ++ dropSeams t :=
  List.filter_append ..

theorem dropSeams_eq_self (h : '_' ∉ s) : dropSeams s = s :=
  List.filter_eq_self.2 fun c hc => by simpa using fun heq : c = '_' => h (heq ▸ hc)

/-- What is left of digits with underscores in between is a row of digits. -/
theorem isAsciiDigit_of_mem_dropSeams (h : s.all isDigitOrSeam) {c : Char}
    (hc : c ∈ dropSeams s) : isAsciiDigit c = true := by
  obtain ⟨hc, hne⟩ := mem_dropSeams.1 hc
  simpa [isDigitOrSeam, hne] using List.all_eq_true.1 h c hc

/-- Behind a digit something is left. -/
theorem dropSeams_ne_nil (h : s.head?.any isAsciiDigit) : dropSeams s ≠ [] := by
  cases s with
  | nil => exact nomatch h
  | cons c rest =>
      rw [dropSeams_cons_of_ne]
      · exact List.cons_ne_nil _ _
      · rintro rfl
        exact nomatch h

theorem toNat_of_isDigitOrSeam {c : Char} (h : isDigitOrSeam c) : c.toNat < 0x80 := by
  obtain hdigit | hseam := Bool.or_eq_true_iff.1 h
  · have := Literal.toNat_of_isAsciiDigit hdigit
    omega
  · rw [beq_iff_eq.1 hseam]
    decide

end Seams

/-! ### Rows -/

section Rows

variable {row : List Char}

/-- A text that starts with neither of the signs has none. -/
theorem splitSign_of_head {s : List Char} (h : ∀ c ∈ s.head?, c ≠ '-' ∧ c ≠ '+') :
    splitSign s = (false, s) := by
  fun_cases splitSign s with
  | case1 rest => exact absurd rfl (h '-' rfl).1
  | case2 rest => exact absurd rfl (h '+' rfl).2
  | case3 => rfl

theorem notMem_row {c : Char} (hrow : ∀ c ∈ row, isAsciiDigit c = true)
    (hc : isAsciiDigit c = false) : c ∉ row := fun hmem =>
  nomatch (hrow c hmem).symm.trans hc

theorem splitSign_row (hrow : ∀ c ∈ row, isAsciiDigit c = true) : splitSign row = (false, row) :=
  splitSign_of_head fun c hc => by
    have hdigit := hrow c (List.mem_of_mem_head? hc)
    constructor <;> rintro rfl <;> exact absurd hdigit (by decide)

theorem plainForm_row (hrow : ∀ c ∈ row, isAsciiDigit c = true) : Literal.plainForm row = row :=
  Literal.plainForm_eq_self fun c hc =>
    ⟨by have := Literal.toNat_of_isAsciiDigit (hrow c hc); omega,
      Literal.isSpacing_of_isAsciiDigit (hrow c hc)⟩

theorem map_toLower_row (hrow : ∀ c ∈ row, isAsciiDigit c = true) :
    row.map Char.toLower = row :=
  (List.map_congr_left fun c hc => Literal.toLower_of_isAsciiDigit (hrow c hc)).trans
    (List.map_id row)

end Rows

/-! ### Parts -/

section Parts

variable {s : List Char}

/-- A text is its parts with marks in between. -/
theorem eq_intercalate_of_splitOn {parts : List (List Char)} (hsplit : s.splitOn ':' = parts) :
    s = [':'].intercalate parts := by
  rw [← hsplit, List.intercalate_splitOn]

theorem eq_of_splitOn {part : List Char} (hsplit : s.splitOn ':' = [part]) : s = part := by
  simpa [List.intercalate] using eq_intercalate_of_splitOn hsplit

/-- A text falls into the same parts with and without its underscores. -/
theorem splitOn_dropSeams (s : List Char) :
    (dropSeams s).splitOn ':' = (s.splitOn ':').map dropSeams := by
  induction s with
  | nil => rfl
  | cons c s ih =>
      obtain ⟨first, rest, hsplit⟩ := List.exists_cons_of_ne_nil (List.splitOn_ne_nil ':' s)
      rw [hsplit] at ih
      by_cases hseam : c = '_'
      · subst hseam
        have hdrop : dropSeams ('_' :: s) = dropSeams s := rfl
        rw [hdrop, ih, List.splitOn_cons_eq_if_modifyHead, hsplit]
        rfl
      · rw [dropSeams_cons_of_ne hseam, List.splitOn_cons_eq_if_modifyHead,
          List.splitOn_cons_eq_if_modifyHead, ih, hsplit]
        split
        · rfl
        · simp [dropSeams_cons_of_ne hseam]

/-- There is one part more than there are marks. -/
theorem length_splitOn (s : List Char) : (s.splitOn ':').length = s.count ':' + 1 := by
  induction s with
  | nil => rfl
  | cons c s ih =>
      rw [List.splitOn_cons_eq_if_modifyHead, List.count_cons]
      split
      · rw [List.length_cons, ih]
      · rw [List.length_modifyHead, ih]

/-- What follows a text without a mark belongs to its last part. -/
theorem splitOn_append {text : List Char} (htext : ':' ∉ text) (s : List Char) :
    ∃ init last, s.splitOn ':' = init ++ [last] ∧
      (s ++ text).splitOn ':' = init ++ [last ++ text] := by
  induction s with
  | nil => exact ⟨[], [], rfl, List.splitOn_eq_singleton htext⟩
  | cons c s ih =>
      obtain ⟨init, last, hsplit, happend⟩ := ih
      rw [List.cons_append, List.splitOn_cons_eq_if_modifyHead,
        List.splitOn_cons_eq_if_modifyHead, hsplit, happend]
      split
      · exact ⟨[] :: init, last, rfl, rfl⟩
      · cases init with
        | nil => exact ⟨[], c :: last, rfl, rfl⟩
        | cons first init => exact ⟨(c :: first) :: init, last, rfl, rfl⟩

/-- The characters of a text are those of its parts and the marks between these. -/
theorem mem_splitOn {c : Char} (h : c ∈ s) : c = ':' ∨ ∃ part ∈ s.splitOn ':', c ∈ part := by
  induction s with
  | nil => exact nomatch h
  | cons d s ih =>
      obtain ⟨first, rest, hsplit⟩ := List.exists_cons_of_ne_nil (List.splitOn_ne_nil ':' s)
      rw [List.splitOn_cons_eq_if_modifyHead, hsplit]
      rw [hsplit] at ih
      split
      · rename_i heq
        rcases List.mem_cons.1 h with rfl | hc
        · exact .inl (beq_iff_eq.1 heq)
        · exact (ih hc).imp_right fun ⟨part, hpart, hmem⟩ =>
            ⟨part, List.mem_cons_of_mem _ hpart, hmem⟩
      · rcases List.mem_cons.1 h with rfl | hc
        · exact .inr ⟨c :: first, List.mem_cons_self, List.mem_cons_self⟩
        · refine (ih hc).imp_right fun ⟨part, hpart, hmem⟩ => ?_
          rcases List.mem_cons.1 hpart with rfl | hpart
          · exact ⟨d :: part, List.mem_cons_self, List.mem_cons_of_mem _ hmem⟩
          · exact ⟨part, List.mem_cons_of_mem _ hpart, hmem⟩

/-- A text starts with the first one of its parts. -/
theorem exists_cons_of_splitOn {c : Char} {first : List Char} {parts : List (List Char)}
    (hsplit : s.splitOn ':' = (c :: first) :: parts) : ∃ rest, s = c :: rest := by
  cases s with
  | nil => exact nomatch (List.cons.inj hsplit).1
  | cons d rest =>
      obtain ⟨front, others, hrest⟩ := List.exists_cons_of_ne_nil (List.splitOn_ne_nil ':' rest)
      rw [List.splitOn_cons_eq_if_modifyHead, hrest] at hsplit
      split at hsplit
      · exact nomatch (List.cons.inj hsplit).1
      · obtain ⟨hfirst, -⟩ := List.cons.inj hsplit
        obtain ⟨rfl, -⟩ := List.cons.inj hfirst
        exact ⟨rest, rfl⟩

/-- The parts that count sixtieths are rows of at most two digits. -/
theorem row_of_isSixtieth {part : List Char} (h : isSixtieth part) :
    (∀ c ∈ part, isAsciiDigit c = true) ∧ part ≠ [] ∧ part.length ≤ 2 := by
  unfold isSixtieth at h
  split at h
  · exact ⟨by simpa using h, by simp, by simp⟩
  · rename_i c d
    simp only [Bool.and_eq_true, decide_eq_true_iff] at h
    obtain ⟨⟨hlow, hhigh⟩, hd⟩ := h
    have hfive : '5' ≤ '9' := by decide
    have hc : isAsciiDigit c = true := by simp [isAsciiDigit, hlow, Char.le_trans hhigh hfive]
    exact ⟨by simp [hc, hd], by simp, by simp⟩
  · exact absurd h Bool.false_ne_true

end Parts

end MetricQuery.Document
