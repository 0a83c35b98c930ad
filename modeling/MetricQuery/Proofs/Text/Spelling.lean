import Mathlib.Data.List.Basic
import MetricQuery.Proofs.Text.Case
import MetricQuery.Text.Spelling

/-!
# Spellings read back

A parameter is named by words of the letters `a` to `z`, joined with single underscores.  Joined in
title case, each word but the first begins with the only capital it has, so the underscores are put
back in front of the capitals (`Text.snake_camel`).  A name without capitals is not changed
(`Text.snake_of_isName`).

## Main definitions

* `Text.IsWord`, `Text.IsName` : words, and names of words.
* `String.camelCase`, `String.snakeCase`, `String.IsParameterName` : the same for texts.

## Main results

* `Text.titled_cons` : the title case of a word.
* `Text.camel_intercalate` : a name with its words joined.
* `Text.snake_camel` : the name read back from its joined spelling.
-/

namespace MetricQuery.Text

/-! ### Letters -/

theorem exists_letter {c : Char} (h : c.isLower) : ∃ i < 26, Char.ofNat (97 + i) = c := by
  have hletter : (c.val ≥ 'a'.val && c.val ≤ 'z'.val) = true := h
  have hrange : 97 ≤ c.toNat ∧ c.toNat ≤ 122 := by
    simpa [UInt32.le_iff_toNat_le] using hletter
  refine ⟨c.toNat - 97, by omega, ?_⟩
  rw [Nat.add_sub_cancel' hrange.1, Char.ofNat_toNat]

theorem isCased_of_isLower {c : Char} (h : c.isLower) : isCased c = true := by
  obtain ⟨i, hi, rfl⟩ := exists_letter h
  revert i
  decide

/-- The characters of names are no capitals and their own lower case. -/
theorem toLower_of_isLower {c : Char} (h : c.isLower ∨ c = '_') :
    c.toNat < 0x80 ∧ isCapital c = false ∧ c.toLower = c := by
  rcases h with h | rfl
  · obtain ⟨i, hi, rfl⟩ := exists_letter h
    revert i
    decide
  · decide

/-- The title case of a letter from `a` to `z` is a capital, of which the letter is the lower
case. -/
theorem toLower_toUpper {c : Char} (h : c.isLower) :
    c.toUpper.toNat < 0x80 ∧ isCapital c.toUpper = true ∧ c.toUpper.toLower = c := by
  obtain ⟨i, hi, rfl⟩ := exists_letter h
  revert i
  decide

/-! ### Words -/

/-- One or more letters from `a` to `z`. -/
def IsWord (w : List Char) : Prop :=
  w ≠ [] ∧ ∀ c ∈ w, c.isLower

theorem titledAfter_of_isLower {before w : List Char} (hbefore : before.head?.any isCased)
    (hw : ∀ c ∈ w, c.isLower) : titledAfter before w = w := by
  induction w generalizing before with
  | nil => rfl
  | cons c rest ih =>
      obtain ⟨hc, hrest⟩ := List.forall_mem_cons.1 hw
      obtain ⟨hascii, -, hlower⟩ := toLower_of_isLower (.inl hc)
      rw [titledAfter, if_pos hbefore, lowerChar, if_pos hascii, hlower,
        ih (by simpa using isCased_of_isLower hc) hrest]
      rfl

/-- In title case a word begins with a capital. -/
theorem titled_cons {c : Char} {w : List Char} (h : IsWord (c :: w)) :
    titled (c :: w) = c.toUpper :: w := by
  obtain ⟨hc, hw⟩ := List.forall_mem_cons.1 h.2
  rw [titled, titledAfter, titledAfter_of_isLower (by simpa using isCased_of_isLower hc) hw]
  simp [titleChar, (toLower_of_isLower (.inl hc)).1]

theorem lt_of_mem_titled {w : List Char} (h : IsWord w) {c : Char} (hc : c ∈ titled w) :
    c.toNat < 0x80 := by
  obtain ⟨first, rest, rfl⟩ := List.exists_cons_of_ne_nil h.1
  obtain ⟨hfirst, hrest⟩ := List.forall_mem_cons.1 h.2
  rw [titled_cons h] at hc
  rcases List.mem_cons.1 hc with rfl | hc
  · exact (toLower_toUpper hfirst).1
  · exact (toLower_of_isLower (.inl (hrest c hc))).1

/-! ### Seams -/

theorem seamed_cons (c : Char) (s : List Char) :
    seamed (c :: s) = (if isCapital c then ['_', c] else [c]) ++ seamed s :=
  List.flatMap_cons

theorem seamed_append (s t : List Char) : seamed (s ++ t) = seamed s ++ seamed t :=
  List.flatMap_append

/-- Below code point 128 every character but the first is put in lower case by itself, behind a
seam if it is a capital. -/
theorem snake_cons {c : Char} {s : List Char} (h : ∀ d ∈ c :: s, d.toNat < 0x80) :
    snake (c :: s) = c.toLower :: (seamed s).map Char.toLower := by
  obtain ⟨hc, hs⟩ := List.forall_mem_cons.1 h
  refine lower_of_ascii (List.forall_mem_cons.2 ⟨hc, fun d hd => ?_⟩)
  obtain ⟨e, he, hde⟩ := List.mem_flatMap.1 hd
  have hd : d = '_' ∨ d = e := by
    split at hde <;> simp_all
  rcases hd with rfl | rfl
  · decide
  · exact hs d he

/-- Letters and underscores have no seams and are in lower case. -/
theorem map_toLower_seamed {s : List Char} (h : ∀ c ∈ s, c.isLower ∨ c = '_') :
    (seamed s).map Char.toLower = s := by
  induction s with
  | nil => rfl
  | cons c rest ih =>
      obtain ⟨hc, hrest⟩ := List.forall_mem_cons.1 h
      obtain ⟨-, hcapital, hlower⟩ := toLower_of_isLower hc
      rw [seamed_cons, hcapital, List.map_append, ih hrest]
      simp [hlower]

/-- The capital of a word in title case makes a seam in front of the word. -/
theorem map_toLower_seamed_titled {w : List Char} (h : IsWord w) :
    (seamed (titled w)).map Char.toLower = '_' :: w := by
  obtain ⟨c, rest, rfl⟩ := List.exists_cons_of_ne_nil h.1
  obtain ⟨hc, hrest⟩ := List.forall_mem_cons.1 h.2
  obtain ⟨-, hcapital, hlower⟩ := toLower_toUpper hc
  rw [titled_cons h, seamed_cons, hcapital, List.map_append,
    map_toLower_seamed fun d hd => .inl (hrest d hd)]
  simp [hlower]

/-! ### Names -/

/-- Words joined with single underscores. -/
def IsName (s : List Char) : Prop :=
  ∃ ws ≠ [], (∀ w ∈ ws, IsWord w) ∧ s = ['_'].intercalate ws

theorem intercalate_cons (w : List Char) (ws : List (List Char)) :
    ['_'].intercalate (w :: ws) = w ++ ws.flatMap ('_' :: ·) := by
  induction ws generalizing w with
  | nil => simp
  | cons next ws ih => simp [List.intercalate_cons_cons, ih]

theorem IsName.isLower_or {p : List Char} (h : IsName p) : ∀ c ∈ p, c.isLower ∨ c = '_' := by
  obtain ⟨ws, hws, hwords, rfl⟩ := h
  obtain ⟨w, ws, rfl⟩ := List.exists_cons_of_ne_nil hws
  obtain ⟨hw, hwords⟩ := List.forall_mem_cons.1 hwords
  intro c hc
  rw [intercalate_cons, List.mem_append, List.mem_flatMap] at hc
  rcases hc with hc | ⟨v, hv, hc⟩
  · exact .inl (hw.2 c hc)
  · exact (List.mem_cons.1 hc).symm.imp_left ((hwords v hv).2 c)

/-- A name is its own spelling with seams. -/
theorem snake_of_isName {p : List Char} (h : IsName p) : snake p = p := by
  have hletters := h.isLower_or
  cases p with
  | nil => rfl
  | cons c rest =>
      obtain ⟨hc, hrest⟩ := List.forall_mem_cons.1 hletters
      rw [snake_cons fun d hd => (toLower_of_isLower (hletters d hd)).1,
        (toLower_of_isLower hc).2.2, map_toLower_seamed hrest]

/-- In the joined spelling of a name every word but the first is in title case. -/
theorem camel_intercalate {w : List Char} {ws : List (List Char)} (h : ∀ v ∈ w :: ws, IsWord v) :
    camel (['_'].intercalate (w :: ws)) = w ++ ws.flatMap titled := by
  have hwords : words (['_'].intercalate (w :: ws)) = w :: ws :=
    List.splitOn_intercalate '_'
      (fun v hv hmem => absurd ((h v hv).2 '_' hmem) (by decide)) (List.cons_ne_nil w ws)
  rw [camel, hwords]

/-- **A name is read back from its joined spelling.** -/
theorem snake_camel {p : List Char} (h : IsName p) : snake (camel p) = p := by
  obtain ⟨ws, hws, hwords, rfl⟩ := h
  obtain ⟨w, ws, rfl⟩ := List.exists_cons_of_ne_nil hws
  rw [camel_intercalate hwords, intercalate_cons]
  obtain ⟨hw, hrest⟩ := List.forall_mem_cons.1 hwords
  obtain ⟨c, rest, rfl⟩ := List.exists_cons_of_ne_nil hw.1
  have hplain : ∀ d ∈ c :: (rest ++ ws.flatMap titled), d.toNat < 0x80 := by
    intro d hd
    rw [← List.cons_append, List.mem_append, List.mem_flatMap] at hd
    rcases hd with hd | ⟨v, hv, hd⟩
    · exact (toLower_of_isLower (.inl (hw.2 d hd))).1
    · exact lt_of_mem_titled (hrest v hv) hd
  have htitled : (seamed (ws.flatMap titled)).map Char.toLower = ws.flatMap ('_' :: ·) := by
    rw [seamed, List.flatMap_assoc, List.map_flatMap]
    exact List.flatMap_congr fun v hv => map_toLower_seamed_titled (hrest v hv)
  obtain ⟨hc, hfirst⟩ := List.forall_mem_cons.1 hw.2
  calc
    snake (c :: (rest ++ ws.flatMap titled))
        = c.toLower :: (seamed (rest ++ ws.flatMap titled)).map Char.toLower := snake_cons hplain
    _ = c :: (rest ++ ws.flatMap ('_' :: ·)) := by
      rw [(toLower_of_isLower (.inl hc)).2.2, seamed_append, List.map_append, htitled,
        map_toLower_seamed fun d hd => .inl (hfirst d hd)]

end MetricQuery.Text

namespace String

open MetricQuery

/-- The name with its words joined. -/
def camelCase (s : String) : String :=
  ofList (Text.camel s.toList)

/-- The text with its capitals turned into seams. -/
def snakeCase (s : String) : String :=
  ofList (Text.snake s.toList)

/-- A name of a parameter: words of the letters from `a` to `z`, joined with single underscores. -/
def IsParameterName (s : String) : Prop :=
  Text.IsName s.toList

theorem snakeCase_eq_iff {s t : String} : s.snakeCase = t ↔ Text.snake s.toList = t.toList := by
  rw [snakeCase, ← toList_inj, toList_ofList]

theorem IsParameterName.snakeCase_self {s : String} (h : s.IsParameterName) : s.snakeCase = s :=
  snakeCase_eq_iff.2 (Text.snake_of_isName h)

theorem IsParameterName.snakeCase_camelCase {s : String} (h : s.IsParameterName) :
    s.camelCase.snakeCase = s := by
  rw [snakeCase_eq_iff, camelCase, toList_ofList, Text.snake_camel h]

end String
