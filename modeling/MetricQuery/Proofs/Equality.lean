import Mathlib.Data.List.Forall2
import MetricQuery.Proofs.Calendar.TimeZone
import MetricQuery.Proofs.Distinct
import MetricQuery.Query.Interval
import MetricQuery.Query.Predicate
import MetricQuery.Query.Response

/-!
# Equality of values

Equal values can be written in different ways: `1`, `1.0` and `true` are equal, as are instants that
name one moment in different offsets, and dimensions that are bound to different stores.  Equality
is an equivalence on each kind of value all the same, since it compares what the values stand for:
scalars by what they denote, instants by their place in time, structures part by part.

So a choice among equal values makes no difference.  Lists that are equal element by element have
equal first occurrences, which stand at the same places (`AlikeLists.distinct`).

## Main definitions

* `Instant.place` : the place in time by which instants are compared.
* `AlikeLists` : lists that are equal element by element.

## Main results

* `beq_congr` : values can be replaced by equal ones in a comparison.
* `equivBEq_of_part` : an equality that looks at parts.
* `Instant.beq_iff`, `Dimension.beq_iff` : what equality compares.
* `AlikeLists.distinct` : the first occurrences in equal lists.
-/

namespace MetricQuery

/-! ### Equivalence -/

/-- Values can be replaced by equal ones in a comparison. -/
theorem beq_congr {α : Type} [BEq α] [EquivBEq α] {x x' y y' : α} (hx : (x == x') = true)
    (hy : (y == y') = true) : (x == y) = (x' == y') := by
  rw [BEq.congr_left hx, BEq.congr_right hy]

/-- An equality that looks at a part of each value is an equivalence if that of the parts is. -/
theorem equivBEq_of_part {α β : Type} [BEq α] [BEq β] [EquivBEq β] (part : α → β)
    (h : ∀ a b, (a == b) = (part a == part b)) : EquivBEq α where
  rfl := (h _ _).trans BEq.rfl
  symm hab := (h _ _).trans (BEq.symm ((h _ _).symm.trans hab))
  trans hab hbc := (h _ _).trans (BEq.trans ((h _ _).symm.trans hab) ((h _ _).symm.trans hbc))

instance equivBEq_prod {α β : Type} [BEq α] [BEq β] [EquivBEq α] [EquivBEq β] :
    EquivBEq (α × β) where
  symm h := by
    obtain ⟨hfst, hsnd⟩ := Bool.and_eq_true_iff.1 h
    exact Bool.and_eq_true_iff.2 ⟨BEq.symm hfst, BEq.symm hsnd⟩
  trans h h' := by
    obtain ⟨hfst, hsnd⟩ := Bool.and_eq_true_iff.1 h
    obtain ⟨hfst', hsnd'⟩ := Bool.and_eq_true_iff.1 h'
    exact Bool.and_eq_true_iff.2 ⟨BEq.trans hfst hfst', BEq.trans hsnd hsnd'⟩

/-- Lists that are equal element by element. -/
abbrev AlikeLists {α : Type} [BEq α] (xs ys : List α) : Prop :=
  List.Forall₂ (fun x y => (x == y) = true) xs ys

section AlikeLists

variable {α : Type} [BEq α] {xs ys zs : List α}

theorem list_beq_iff : (xs == ys) = true ↔ AlikeLists xs ys := by
  induction xs generalizing ys with
  | nil => cases ys <;> simp
  | cons x xs ih =>
      cases ys with
      | nil => simp
      | cons y ys => simp [ih]

theorem alikeLists_refl [ReflBEq α] (xs : List α) : AlikeLists xs xs :=
  List.forall₂_same.2 fun _ _ => BEq.rfl

theorem AlikeLists.eq [LawfulBEq α] (h : AlikeLists xs ys) : xs = ys := by
  have heq : List.Forall₂ Eq xs ys := List.Forall₂.imp (fun _ _ => eq_of_beq) h
  rwa [List.forall₂_eq_eq_eq] at heq

variable [EquivBEq α]

theorem AlikeLists.symm (h : AlikeLists xs ys) : AlikeLists ys xs :=
  (List.Forall₂.imp (fun _ _ => BEq.symm) h).flip

theorem AlikeLists.trans (h : AlikeLists xs ys) (h' : AlikeLists ys zs) : AlikeLists xs zs := by
  induction h generalizing zs with
  | nil => exact h'
  | cons hxy _ ih =>
      cases h' with
      | cons hyz hrest => exact .cons (BEq.trans hxy hyz) (ih hrest)

instance equivBEq_list : EquivBEq (List α) where
  rfl := list_beq_iff.2 (alikeLists_refl _)
  symm h := list_beq_iff.2 (list_beq_iff.1 h).symm
  trans h h' := list_beq_iff.2 ((list_beq_iff.1 h).trans (list_beq_iff.1 h'))

/-- Equal lists have equal first occurrences. -/
theorem AlikeLists.distinct (h : AlikeLists xs ys) : AlikeLists (distinct xs) (distinct ys) := by
  induction h with
  | nil => exact .nil
  | cons hxy _ ih =>
      refine .cons hxy (List.rel_filter (fun u v huv => ?_) ih)
      simp only [beq_congr hxy huv]

end AlikeLists

/-! ### Instants, intervals and pages -/

namespace Instant

/-- The places at which instants stand.  An instant without a zone stands on a clock of its own, one
of a zone at a moment of universal time, or, if its reading is skipped or repeated, on the clock of
the zone. -/
inductive Place
  | free (clock : Int)
  | moment (moment : Int)
  | unsettled (zone : TimeZone) (clock : Int)
deriving DecidableEq

/-- The place at which an instant stands. -/
def place (t : Instant) : Place :=
  match t.zone with
  | none => .free t.clock
  | some zone =>
    if zone.isSettled t.clock then .moment (zone.universal t.clock t.fold)
    else .unsettled zone t.clock

section Place

variable {s t : Instant} {zone zone' : TimeZone}

theorem place_of_zone (ht : t.zone = some zone) :
    t.place = if zone.isSettled t.clock then .moment (zone.universal t.clock t.fold)
      else .unsettled zone t.clock := by
  rw [place, ht]

theorem place_of_zone_eq_none (ht : t.zone = none) : t.place = .free t.clock := by
  rw [place, ht]

theorem beq_iff_of_zone_eq (h : s.zone = t.zone) : (s == t) = true ↔ s.clock = t.clock :=
  (iff_of_eq (congrArg (· = true) (if_pos h))).trans beq_iff_eq

theorem beq_iff_of_zone_ne (hs : s.zone = some zone) (ht : t.zone = some zone')
    (hne : zone ≠ zone') :
    (s == t) = true ↔ (zone.isSettled s.clock = true ∧ zone'.isSettled t.clock = true) ∧
      zone.universal s.clock s.fold = zone'.universal t.clock t.fold := by
  have hzones : s.zone ≠ t.zone := by
    rw [hs, ht]
    exact fun h => hne (Option.some_inj.1 h)
  refine (iff_of_eq (congrArg (· = true) (if_neg hzones))).trans ?_
  rw [universal?, universal?, isSettled, isSettled, hs, ht]
  simp

theorem not_beq_of_zone_eq_none (hne : s.zone ≠ t.zone) (h : s.zone = none ∨ t.zone = none) :
    ¬ (s == t) = true := by
  change ¬ (if s.zone = t.zone then _ else _) = true
  rw [if_neg hne, universal?, universal?]
  rcases h with hs | ht
  · rw [hs]
    exact Bool.false_ne_true
  · rw [ht]
    cases s.zone <;> exact Bool.false_ne_true

/-- Instants of one zone stand at the same place exactly if the clock reads the same. -/
theorem place_eq_iff_of_zone_eq (h : s.zone = t.zone) : s.place = t.place ↔ s.clock = t.clock := by
  cases hs : s.zone with
  | none => rw [place_of_zone_eq_none hs, place_of_zone_eq_none (h.symm.trans hs), Place.free.injEq]
  | some zone =>
      rw [place_of_zone hs, place_of_zone (h.symm.trans hs)]
      by_cases hsettled : zone.isSettled s.clock = true
      · by_cases hsettled' : zone.isSettled t.clock = true
        · rw [if_pos hsettled, if_pos hsettled', Place.moment.injEq,
            TimeZone.universal_eq_iff_of_settled hsettled hsettled']
        · rw [if_pos hsettled, if_neg hsettled']
          refine iff_of_false nofun fun hclock => hsettled' ?_
          rwa [← hclock]
      · by_cases hsettled' : zone.isSettled t.clock = true
        · rw [if_neg hsettled, if_pos hsettled']
          refine iff_of_false nofun fun hclock => hsettled ?_
          rwa [hclock]
        · rw [if_neg hsettled, if_neg hsettled', Place.unsettled.injEq, and_iff_right rfl]

/-- Instants are equal exactly if they stand at the same place. -/
theorem beq_iff : (s == t) = true ↔ s.place = t.place := by
  by_cases hzones : s.zone = t.zone
  · rw [beq_iff_of_zone_eq hzones, place_eq_iff_of_zone_eq hzones]
  cases hs : s.zone with
  | none =>
      cases ht : t.zone with
      | none => exact absurd (hs.trans ht.symm) hzones
      | some zone =>
          rw [place_of_zone_eq_none hs, place_of_zone ht]
          refine iff_of_false (not_beq_of_zone_eq_none hzones (.inl hs)) ?_
          split <;> exact nofun
  | some zone =>
      cases ht : t.zone with
      | none =>
          rw [place_of_zone hs, place_of_zone_eq_none ht]
          refine iff_of_false (not_beq_of_zone_eq_none hzones (.inr ht)) ?_
          split <;> exact nofun
      | some zone' =>
          have hne : zone ≠ zone' := fun h => hzones (by rw [hs, ht, h])
          rw [beq_iff_of_zone_ne hs ht hne, place_of_zone hs, place_of_zone ht]
          split <;> split <;> simp_all

end Place

end Instant

instance : EquivBEq Instant :=
  equivBEq_of_part Instant.place fun s t => by
    rw [Bool.eq_iff_iff, Instant.beq_iff, beq_iff_eq]

instance : EquivBEq Interval :=
  equivBEq_of_part (fun i => (i.start, i.finish)) fun _ _ => rfl

instance : EquivBEq Page :=
  equivBEq_of_part (fun p => (p.perPage, p.page)) fun _ _ => rfl

/-! ### Data -/

namespace Datum

-- Equality follows the structure of its first argument, and so do its laws.
mutual

theorem same_refl : (d : Datum) → same d d = true
  | scalar _ | date _ | instant _ | bytes _ | cycle _ => BEq.rfl
  | list items | set items => sameItems_refl items
  | pair first second => Bool.and_eq_true_iff.2 ⟨same_refl first, same_refl second⟩
  | map entries => sameEntries_refl entries

theorem sameItems_refl : (ds : List Datum) → sameItems ds ds = true
  | [] => rfl
  | d :: ds => Bool.and_eq_true_iff.2 ⟨same_refl d, sameItems_refl ds⟩

theorem sameEntries_refl : (es : List (Datum × Datum)) → sameEntries es es = true
  | [] => rfl
  | (k, v) :: es => by
      simp only [sameEntries, Bool.and_eq_true_iff]
      exact ⟨⟨same_refl k, same_refl v⟩, sameEntries_refl es⟩

end

mutual

theorem same_symm : (d e : Datum) → same d e = true → same e d = true
  | scalar _, scalar _, h | date _, date _, h | instant _, instant _, h | bytes _, bytes _, h
  | cycle _, cycle _, h => BEq.symm h
  | list items, list items', h | set items, set items', h => sameItems_symm items items' h
  | pair a b, pair c d, h => by
      simp only [same, Bool.and_eq_true_iff] at h ⊢
      exact ⟨same_symm a c h.1, same_symm b d h.2⟩
  | map entries, map entries', h => sameEntries_symm entries entries' h

theorem sameItems_symm : (ds es : List Datum) → sameItems ds es = true → sameItems es ds = true
  | [], [], _ => rfl
  | d :: ds, e :: es, h => by
      simp only [sameItems, Bool.and_eq_true_iff] at h ⊢
      exact ⟨same_symm d e h.1, sameItems_symm ds es h.2⟩

theorem sameEntries_symm : (ds es : List (Datum × Datum)) →
    sameEntries ds es = true → sameEntries es ds = true
  | [], [], _ => rfl
  | (k, v) :: ds, (l, w) :: es, h => by
      simp only [sameEntries, Bool.and_eq_true_iff] at h ⊢
      exact ⟨⟨same_symm k l h.1.1, same_symm v w h.1.2⟩, sameEntries_symm ds es h.2⟩

end

mutual

theorem same_trans : (c d e : Datum) → same c d = true → same d e = true → same c e = true
  | scalar _, scalar _, scalar _, h, h' | date _, date _, date _, h, h'
  | instant _, instant _, instant _, h, h' | bytes _, bytes _, bytes _, h, h'
  | cycle _, cycle _, cycle _, h, h' => BEq.trans h h'
  | list items, list items', list items'', h, h' | set items, set items', set items'', h, h' =>
      sameItems_trans items items' items'' h h'
  | pair a b, pair a' b', pair a'' b'', h, h' => by
      simp only [same, Bool.and_eq_true_iff] at h h' ⊢
      exact ⟨same_trans a a' a'' h.1 h'.1, same_trans b b' b'' h.2 h'.2⟩
  | map entries, map entries', map entries'', h, h' =>
      sameEntries_trans entries entries' entries'' h h'

theorem sameItems_trans : (cs ds es : List Datum) →
    sameItems cs ds = true → sameItems ds es = true → sameItems cs es = true
  | [], [], [], _, _ => rfl
  | c :: cs, d :: ds, e :: es, h, h' => by
      simp only [sameItems, Bool.and_eq_true_iff] at h h' ⊢
      exact ⟨same_trans c d e h.1 h'.1, sameItems_trans cs ds es h.2 h'.2⟩

theorem sameEntries_trans : (cs ds es : List (Datum × Datum)) →
    sameEntries cs ds = true → sameEntries ds es = true → sameEntries cs es = true
  | [], [], [], _, _ => rfl
  | (j, u) :: cs, (k, v) :: ds, (l, w) :: es, h, h' => by
      simp only [sameEntries, Bool.and_eq_true_iff] at h h' ⊢
      exact ⟨⟨same_trans j k l h.1.1 h'.1.1, same_trans u v w h.1.2 h'.1.2⟩,
        sameEntries_trans cs ds es h.2 h'.2⟩

end

instance : EquivBEq Datum where
  rfl {d} := same_refl d
  symm {d e} := same_symm d e
  trans {c d e} := same_trans c d e

end Datum

/-! ### Terms and predicates -/

theorem Dimension.beq_iff {d e : Dimension} : (d == e) = true ↔ d.attributes = e.attributes :=
  decide_eq_true_iff

instance : EquivBEq Dimension :=
  equivBEq_of_part Dimension.attributes fun d e => by
    rw [Bool.eq_iff_iff, Dimension.beq_iff, beq_iff_eq]

instance : EquivBEq Metric :=
  equivBEq_of_part (fun m => (m.name, m.expression, m.description, m.category, m.dependencies))
    fun _ _ => rfl

instance : EquivBEq Filter :=
  equivBEq_of_part (fun f => (f.dimension, f.field, f.operation, f.values)) fun _ _ => rfl

theorem Filter.dimension_beq {f g : Filter} (h : (f == g) = true) :
    (f.dimension == g.dimension) = true :=
  (Bool.and_eq_true_iff.1 h).1

instance : EquivBEq Having :=
  equivBEq_of_part (fun h => (h.metric, h.operation, h.values)) fun _ _ => rfl

theorem Having.alikeLists_values {h k : Having} (hk : (h == k) = true) :
    AlikeLists h.values k.values :=
  list_beq_iff.1 (Bool.and_eq_true_iff.1 (Bool.and_eq_true_iff.1 hk).2).2

end MetricQuery
