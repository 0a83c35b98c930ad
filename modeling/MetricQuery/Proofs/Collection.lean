import MetricQuery.Keyed
import MetricQuery.Proofs.Equality
import MetricQuery.Proofs.Outcome

/-!
# Equal collections

Two maps are equal entry by entry if their keys are equal in the same order and the values under
them are related.  Computing the values one by one keeps such maps equal (`AlikeMaps.mapM`), and so
does adding equal values to the sets of a map, each under the first key that equals its own
(`AlikeMaps.addUnder`).  Maps that are equal entry by entry are equal as maps, without regard to
order (`AlikeMaps.same`).

A collection of a request is a list or a loose value.  Equal loose values have the same elements, as
they have none at all or are faults.

## Main definitions

* `AlikeMaps` : maps that are equal entry by entry.
* `Given.Alike` : equal collections of requests.
* `Datum.IsVoid` : the loose values without elements.

## Main results

* `AlikeMaps.mapM`, `AlikeMaps.addUnder` : operations that keep maps equal.
* `AlikeMaps.same`, `AlikeLists.sameMembers` : equality of maps and sets.
* `Given.Alike.elements`, `Given.Alike.elementsOrNone`, `Given.Alike.entriesOrNone` : the elements
  of equal collections.
-/

namespace MetricQuery

/-! ### Equal maps -/

/-- Entries with equal keys and related values. -/
abbrev AlikeEntries {κ ν : Type} [BEq κ] (R : ν → ν → Prop) (e e' : κ × ν) : Prop :=
  (e.1 == e'.1) = true ∧ R e.2 e'.2

/-- Maps that are equal entry by entry, in the same order.  The keys of a map are different. -/
structure AlikeMaps {κ ν : Type} [BEq κ] (R : ν → ν → Prop) (m m' : Keyed κ ν) : Prop where
  different : NoRepeats m.keys
  entries : List.Forall₂ (AlikeEntries R) m m'

section AlikeMaps

variable {κ ν μ : Type} [BEq κ] {R : ν → ν → Prop} {S : μ → μ → Prop} {m m' : Keyed κ ν}

theorem alikeMaps_nil : AlikeMaps (κ := κ) R [] [] :=
  ⟨.nil, .nil⟩

/-- A map with different keys is equal to itself entry by entry. -/
theorem alikeMaps_refl [ReflBEq κ] {R : ν → ν → Prop} {m : Keyed κ ν} (h : NoRepeats m.keys)
    (hR : ∀ v, R v v) : AlikeMaps R m m :=
  ⟨h, List.forall₂_same.2 fun _ _ => ⟨BEq.rfl, hR _⟩⟩

omit [BEq κ] in
/-- Entries that are computed one by one and keep their keys make a map with the same keys. -/
theorem keys_of_mapM_eq_ok {f : κ × ν → Except Fault (κ × μ)}
    (hf : ∀ e e', f e = .ok e' → e'.1 = e.1) {m : Keyed κ ν} {n : Keyed κ μ}
    (h : m.mapM f = .ok n) : n.keys = m.keys := by
  have hentries := List.mapM_eq_ok_iff.1 h
  clear h
  induction hentries with
  | nil => rfl
  | cons hentry _ ih => exact congrArg₂ (· :: ·) (hf _ _ hentry) ih

/-- Maps whose values are computed one by one from those of equal maps are equal. -/
theorem AlikeMaps.mapM (h : AlikeMaps R m m') {f : κ × ν → Except Fault (κ × μ)}
    (read : ν → Except Fault μ) (hf : ∀ e, f e = do return (e.1, ← read e.2))
    (hread : ∀ v v', R v v' → (read v).Alike S (read v')) :
    (m.mapM f).Alike (AlikeMaps S) (m'.mapM f) := by
  have hentries : (m.mapM f).Alike (List.Forall₂ (AlikeEntries S)) (m'.mapM f) :=
    .mapM h.entries fun e e' he => by
      rw [hf, hf]
      exact (hread _ _ he.2).bind fun _ _ hv => .ok ⟨he.1, hv⟩
  have hkeys : ∀ e e', f e = .ok e' → e'.1 = e.1 := by
    intro e e' he
    rw [hf] at he
    obtain ⟨_, -, ⟨⟩⟩ := Except.bind_eq_ok_iff.1 he
    rfl
  refine hentries.imp fun n n' hn _ hnn' => ⟨?_, hnn'⟩
  rw [keys_of_mapM_eq_ok hkeys hn]
  exact h.different

variable [EquivBEq κ]

/-- Under the keys of equal maps related values are found. -/
theorem AlikeMaps.exists_get?_eq (h : AlikeMaps R m m') {e : κ × ν} (he : e ∈ m) :
    ∃ v, m'.get? e.1 = some v ∧ R e.2 v := by
  obtain ⟨hdifferent, hentries⟩ := h
  induction hentries with
  | nil => exact absurd he List.not_mem_nil
  | @cons first first' rest rest' hfirst _ ih =>
      obtain ⟨hnew, hrest⟩ := List.pairwise_cons.1 hdifferent
      rcases List.mem_cons.1 he with rfl | he
      · refine ⟨first'.2, ?_, hfirst.2⟩
        rw [Keyed.get?, List.find?_cons, BEq.symm hfirst.1]
        rfl
      · -- A later key of `m` is not equal to the first one, and so not to the first one of `m'`.
        have hne : (first'.1 == e.1) = false := by
          rw [← BEq.congr_left hfirst.1]
          exact hnew _ (List.mem_map_of_mem he)
        obtain ⟨v, hv, hR⟩ := ih he hrest
        refine ⟨v, ?_, hR⟩
        rw [Keyed.get?, List.find?_cons, hne]
        exact hv

theorem AlikeMaps.same (h : AlikeMaps R m m') {agree : ν → ν → Bool}
    (hagree : ∀ v v', R v v' → agree v v' = true) : Keyed.same agree m m' = true := by
  rw [Keyed.same, Bool.and_eq_true, beq_iff_eq, List.all_eq_true]
  refine ⟨h.entries.length_eq, fun e he => ?_⟩
  obtain ⟨v, hv, hR⟩ := h.exists_get?_eq he
  simp only [hv, Option.any_some, hagree _ _ hR]

end AlikeMaps

/-- Equal lists have the same members. -/
theorem AlikeLists.sameMembers {α : Type} [BEq α] {xs ys : List α} (h : AlikeLists xs ys) :
    sameMembers xs ys = true := by
  rw [MetricQuery.sameMembers, Bool.and_eq_true, beq_iff_eq, List.all_eq_true]
  exact ⟨h.length_eq, fun x hx => List.any_eq_true.2 (h.exists_of_mem_left hx)⟩

/-! ### Values added to the sets of a map -/

section AddUnder

variable {κ ν : Type} [BEq κ] [BEq ν] {m m' : Keyed κ (List ν)} {key key' : κ} {value value' : ν}

theorem mem_keys_addUnder {k : κ} (h : k ∈ (m.addUnder key value).keys) : k ∈ m.keys ∨ k = key := by
  induction m with
  | nil => exact .inr (List.mem_singleton.1 h)
  | cons e rest ih =>
      rw [Keyed.addUnder] at h
      split at h
      · exact .inl h
      · rcases List.mem_cons.1 h with rfl | h
        · exact .inl List.mem_cons_self
        · exact (ih h).imp_left (List.mem_cons_of_mem _)

theorem noRepeats_keys_addUnder (h : NoRepeats m.keys) :
    NoRepeats (m.addUnder key value).keys := by
  induction m with
  | nil => exact List.pairwise_singleton ..
  | cons e rest ih =>
      obtain ⟨hfirst, hrest⟩ := List.pairwise_cons.1 h
      rw [Keyed.addUnder]
      split
      · exact h
      · rename_i hkey
        refine List.pairwise_cons.2 ⟨fun k hk => ?_, ih hrest⟩
        rcases mem_keys_addUnder hk with hk | rfl
        · exact hfirst k hk
        · exact Bool.not_eq_true _ ▸ hkey

variable [EquivBEq κ] [EquivBEq ν]

/-- Whether a set has a value is the same for equal sets and values. -/
theorem AlikeLists.any_beq {values values' : List ν} (h : AlikeLists values values')
    (hv : (value == value') = true) :
    (values.any (· == value)) = values'.any (· == value') := by
  induction h with
  | nil => rfl
  | cons hxy _ ih => rw [List.any_cons, List.any_cons, beq_congr hxy hv, ih]

/-- Equal values added under equal keys leave equal maps. -/
theorem AlikeMaps.addUnder (h : AlikeMaps AlikeLists m m') (hkey : (key == key') = true)
    (hvalue : (value == value') = true) :
    AlikeMaps AlikeLists (m.addUnder key value) (m'.addUnder key' value') := by
  refine ⟨noRepeats_keys_addUnder h.different, ?_⟩
  obtain ⟨-, hentries⟩ := h
  induction hentries with
  | nil => exact .cons ⟨hkey, .cons hvalue .nil⟩ .nil
  | @cons e e' rest rest' he hrest ih =>
      rw [Keyed.addUnder, Keyed.addUnder, beq_congr he.1 hkey, he.2.any_beq hvalue]
      split
      · refine .cons ⟨he.1, ?_⟩ hrest
        dsimp only
        split
        · exact he.2
        · exact List.rel_append he.2 (.cons hvalue .nil)
      · exact .cons he ih

end AddUnder

/-! ### Equal collections -/

/-- Two collections are given alike: as lists that are related, or as equal loose values. -/
inductive Given.Alike {α : Type} {Loose : Datum → Prop} (L : List α → List α → Prop) :
    Given α Loose → Given α Loose → Prop
  | items {xs ys : List α} (h : L xs ys) : Alike L (.items xs) (.items ys)
  | loose {d e : Datum} {hd : Loose d} {he : Loose e} (h : (d == e) = true) :
      Alike L (.loose d hd) (.loose e he)

theorem Scalar.eq_text_of_beq {s : Scalar} {t : String} (h : (s == .text t) = true) :
    s = .text t := by
  rw [Scalar.beq_iff] at h
  cases s with
  | text s => simpa [Scalar.denotation] using h
  | float x => cases x <;> simp [Scalar.denotation] at h
  | _ => simp [Scalar.denotation] at h

/-- A scalar that is no text has no elements. -/
theorem Datum.elements_scalar {s : Scalar} (h : ∀ t, s ≠ .text t) :
    (scalar s).elements = .error (.notIterable (scalar s).kind) := by
  cases s with
  | text t => exact absurd rfl (h t)
  | _ => rfl

/-- Equal values both have elements or both have none. -/
theorem Datum.elements_alike : (d e : Datum) → (d == e) = true →
    d.elements.Alike (fun xs ys => xs = [] ↔ ys = []) e.elements
  | scalar s, scalar s', h => by
      have hs : (s == s') = true := h
      by_cases htext : ∃ t, s' = .text t
      · obtain ⟨t, rfl⟩ := htext
        obtain rfl := Scalar.eq_text_of_beq hs
        exact .refl (fun xs => (Iff.rfl : xs = [] ↔ xs = [])) _
      · have hother : ∀ t, s' ≠ .text t := fun t ht => htext ⟨t, ht⟩
        have hsame : ∀ t, s ≠ .text t := by
          rintro t rfl
          exact hother t (Scalar.eq_text_of_beq (BEq.symm hs))
        rw [elements_scalar hsame, elements_scalar hother]
        exact .error ..
  | date _, date _, _ | instant _, instant _, _ | cycle _, cycle _, _ => .error ..
  | bytes bs, bytes bs', h => by
      obtain rfl := eq_of_beq (show (bs == bs') = true from h)
      exact .refl (fun xs => (Iff.rfl : xs = [] ↔ xs = [])) _
  | list [], list [], _ | set [], set [], _ | map [], map [], _ => .ok Iff.rfl
  | pair _ _, pair _ _, _ | list (_ :: _), list (_ :: _), _ | set (_ :: _), set (_ :: _), _
  | map (_ :: _), map (_ :: _), _ => .ok (by simp)

/-- Equal values are both empty or both not. -/
theorem Datum.isEmpty_congr : (d e : Datum) → (d == e) = true → d.isEmpty = e.isEmpty
  | scalar s, scalar s', h => by
      have hs : (s == s') = true := h
      simp only [isEmpty, BEq.congr_left hs]
  | date _, date _, _ | instant _, instant _, _ | pair _ _, pair _ _, _ | cycle _, cycle _, _ => rfl
  | bytes bs, bytes bs', h => by
      rw [isEmpty, isEmpty, eq_of_beq (show (bs == bs') = true from h)]
  | list [], list [], _ | list (_ :: _), list (_ :: _), _ | set [], set [], _
  | set (_ :: _), set (_ :: _), _ | map [], map [], _ | map (_ :: _), map (_ :: _), _ => rfl

/-- A list of scalars is read as its first occurrences. -/
theorem Datum.distinctScalars_scalars (xs : List Scalar) :
    (Datum.list (xs.map Datum.scalar)).distinctScalars = .ok (distinct xs) := by
  have hkeys : (xs.map Datum.scalar).mapM Datum.key = .ok xs := by
    rw [List.mapM_eq_ok_iff, List.forall₂_map_left_iff]
    exact List.forall₂_same.2 fun _ _ => rfl
  cases xs with
  | nil => rfl
  | cons x xs =>
      rw [distinctScalars, if_neg (by simp [Datum.isEmpty])]
      exact Except.bind_eq_ok_iff.2 ⟨_, rfl, Except.bind_eq_ok_iff.2 ⟨_, hkeys, rfl⟩⟩

section Given

variable {α : Type} {Loose : Datum → Prop} {L : List α → List α → Prop} {g g' : Given α}
  {r r' : Given α Loose}

theorem Given.Alike.elements (h : g.Alike L g') (hnil : L [] []) :
    g.elements.Alike L g'.elements := by
  cases h with
  | items h => exact .ok h
  | loose h => exact (Datum.elements_alike _ _ h).map fun _ _ _ => hnil

theorem Given.Alike.elementsOrNone (h : g.Alike L g') (hnil : L [] []) :
    g.elementsOrNone.Alike L g'.elementsOrNone := by
  cases h with
  | items h => exact .ok h
  | loose h =>
      rw [Given.elementsOrNone, Given.elementsOrNone, Datum.isEmpty_congr _ _ h]
      split
      · exact .ok hnil
      · exact Given.Alike.elements (.loose h) hnil

theorem Given.Alike.entriesOrNone {g g' : Given α Datum.Entryless} (h : g.Alike L g')
    (hnil : L [] []) : g.entriesOrNone.Alike L g'.entriesOrNone := by
  cases h with
  | items h => exact .ok h
  | loose h =>
      rw [Given.entriesOrNone, Given.entriesOrNone, Datum.isEmpty_congr _ _ h]
      split
      · exact .ok hnil
      · exact .error ..

theorem Given.Alike.elementsWith (h : r.Alike L r') (hnil : L [] []) (member : String) :
    (r.elementsWith member).Alike L (r'.elementsWith member) := by
  cases h with
  | items h => exact .ok h
  | loose h =>
      refine (Datum.elements_alike _ _ h).bind fun xs ys hxy => ?_
      cases xs with
      | nil =>
          obtain rfl := hxy.1 rfl
          exact .ok hnil
      | cons x xs =>
          cases ys with
          | nil => exact absurd (hxy.2 rfl) (by simp)
          | cons y ys => exact .error ..

theorem Given.Alike.elementsWithOrNone (h : r.Alike L r') (hnil : L [] []) (member : String) :
    (r.elementsWithOrNone member).Alike L (r'.elementsWithOrNone member) := by
  cases h with
  | items h => exact .ok h
  | loose h =>
      rw [Given.elementsWithOrNone, Given.elementsWithOrNone, Datum.isEmpty_congr _ _ h]
      split
      · exact .ok hnil
      · exact Given.Alike.elementsWith (.loose h) hnil member

end Given

end MetricQuery
