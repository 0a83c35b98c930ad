import MetricQuery.Proofs.Calendar.TimeZone
import MetricQuery.Query.Interval

/-!
# Overlapping intervals

An interval holds its first instant and not its last one.  The construction admits an interval whose
two instants are equal; such an interval is empty.  Two intervals that are not empty overlap exactly
if some instant lies in both.  An empty interval overlaps every interval that it lies strictly
inside of, although no instant lies in both (`Interval.overlaps_iff_exists_contains`).

This needs instants that stand in a row.  Instants of different zones are ordered by universal time
and instants of one zone by its clock, and the two orders disagree where the clock is put back or
forward.  So the intervals are to lie between steady instants, of whichever zones, or all instants
have to be of one zone.  Either way instants have places on a scale, and each question about
intervals becomes one about integers.  In between an instant may lie in two intervals that do not
overlap (`Interval.overlaps_repeatedHour`).

## Main definitions

* `Instant.StandsAt` : an instant at a place on a scale.
* `Interval.Zoned` : the intervals that the construction admits between instants with zones.
* `Interval.IsEmpty`, `Interval.Surrounds` : intervals without instants, and what lies around them.
* `Interval.OverlapTells` : overlap tells whether two intervals have an instant in common.

## Main results

* `Interval.contains_eq`, `Interval.overlaps_eq` : membership and overlap on a scale.
* `Interval.overlaps_iff_exists_contains` : overlap and common instants.
-/

namespace MetricQuery

/-! ### Scales -/

/-- The clock of a zone as a scale for the instants of the zone. -/
def TimeZone.scale (zone : TimeZone) (t : Instant) : Option Int :=
  if t.zone = some zone then some t.clock else none

/-- An instant stands at a place of a scale, in order with all instants that have a place there. -/
structure Instant.StandsAt (scale : Instant → Option Int) (t : Instant) (m : Int) : Prop where
  place : scale t = some m
  order?_eq : ∀ s x, scale s = some x → s.order? t = some (compare x m)

section Scale

variable {zone : TimeZone} {s t : Instant} {m x : Int} {scale : Instant → Option Int}

theorem compare_congr {a b c d : Int} (hlt : a < b ↔ c < d) (hgt : b < a ↔ d < c) :
    compare a b = compare c d := by
  rcases Int.lt_trichotomy a b with h | rfl | h
  · rw [Int.compare_eq_lt.2 h, Int.compare_eq_lt.2 (hlt.1 h)]
  · have heq : c = d := by omega
    rw [Int.compare_eq_eq.2 rfl, Int.compare_eq_eq.2 heq]
  · rw [Int.compare_eq_gt.2 h, Int.compare_eq_gt.2 (hgt.1 h)]

theorem TimeZone.scale_eq_some_iff : zone.scale t = some x ↔ t.zone = some zone ∧ t.clock = x := by
  rw [TimeZone.scale, Option.ite_none_right_eq_some, Option.some_inj]

/-- Instants of one zone are ordered by its clock. -/
theorem Instant.standsAt_clock (ht : t.zone = some zone) : t.StandsAt zone.scale t.clock where
  place := TimeZone.scale_eq_some_iff.2 ⟨ht, rfl⟩
  order?_eq s x hs := by
    obtain ⟨hzone, rfl⟩ := TimeZone.scale_eq_some_iff.1 hs
    exact if_pos (hzone.trans ht.symm)

/-- A steady instant is ordered with all instants by universal time. -/
theorem Instant.Steady.standsAt_universal (h : t.Steady) (hm : t.universal? = some m) :
    t.StandsAt Instant.universal? m where
  place := hm
  order?_eq s x hs := by
    obtain ⟨zone, ht, rfl⟩ := Option.map_eq_some_iff.1 hm
    obtain ⟨zone', hs', rfl⟩ := Option.map_eq_some_iff.1 hs
    by_cases hzone : s.zone = t.zone
    · obtain rfl : zone' = zone := Option.some_inj.1 (hs'.symm.trans (hzone.trans ht))
      obtain ⟨hlt, hgt⟩ := h zone' ht s.clock s.fold
      exact (if_pos hzone).trans (congrArg some (compare_congr hlt hgt))
    · rw [order?, if_neg hzone, hs, hm]

theorem Interval.before_eq (ht : t.StandsAt scale m) (hs : scale s = some x) :
    before s t = .ok (decide (x < m)) := by
  have hlt : (compare x m == .lt) = decide (x < m) := by
    rw [Bool.eq_iff_iff, beq_iff_eq, Int.compare_eq_lt, decide_eq_true_iff]
  rw [before, ht.order?_eq s x hs]
  exact congrArg Except.ok hlt

/-- Instants with zones are always in order. -/
theorem Interval.exists_before_eq_ok (hs : s.zone.isSome = true) (ht : t.zone.isSome = true) :
    ∃ answer, before s t = .ok answer := by
  obtain ⟨zone, hzone⟩ := Option.isSome_iff_exists.1 hs
  obtain ⟨zone', hzone'⟩ := Option.isSome_iff_exists.1 ht
  rw [before, Instant.order?, Instant.universal?, Instant.universal?, hzone, hzone']
  by_cases hsame : some zone = some zone'
  · rw [if_pos hsame]
    exact ⟨_, rfl⟩
  · rw [if_neg hsame]
    exact ⟨_, rfl⟩

/-- An instant without a zone has no order with one that has a zone. -/
theorem Interval.before_of_zone_eq_none (hs : s.zone = none) (ht : t.zone.isSome = true) :
    before s t = .error .clocksMixed := by
  obtain ⟨zone, hzone⟩ := Option.isSome_iff_exists.1 ht
  rw [before, Instant.order?, Instant.universal?, hs, hzone, if_neg nofun]
  rfl

end Scale

namespace Interval

/-! ### Intervals on a scale -/

/-- Intervals that the construction admits between instants with zones. -/
structure Zoned (i : Interval) : Prop where
  start : i.start.zone.isSome = true
  finish : i.finish.zone.isSome = true
  made : make i.start i.finish = .ok i

/-- Intervals between steady instants. -/
structure Steady (i : Interval) : Prop where
  start : i.start.Steady
  finish : i.finish.Steady

/-- Intervals between instants of a zone. -/
structure LiesIn (i : Interval) (zone : TimeZone) : Prop where
  start : i.start.zone = some zone
  finish : i.finish.zone = some zone

/-- Intervals that do not start before they finish. -/
def IsEmpty (i : Interval) : Prop :=
  before i.start i.finish = .ok false

/-- An interval starts before an instant and finishes behind it. -/
def Surrounds (i : Interval) (t : Instant) : Prop :=
  before i.start t = .ok true ∧ before t i.finish = .ok true

/-- An interval stretches between two places on a scale. -/
structure Spans (scale : Instant → Option Int) (i : Interval) (m n : Int) : Prop where
  start : i.start.StandsAt scale m
  finish : i.finish.StandsAt scale n

section Spans

variable {i j : Interval} {m n k l x : Int} {t : Instant} {zone : TimeZone}
  {scale : Instant → Option Int}

/-- The construction admits only intervals that do not finish before they start. -/
theorem Spans.le (hi : i.Spans scale m n) (hmade : make i.start i.finish = .ok i) : m ≤ n := by
  refine Int.not_lt.1 fun hlt => ?_
  rw [make, before_eq hi.start hi.finish.place, decide_eq_true hlt] at hmade
  exact nomatch hmade

theorem Spans.make_eq_ok (hi : i.Spans scale m n) (hmn : m ≤ n) :
    make i.start i.finish = .ok i := by
  rw [make, before_eq hi.start hi.finish.place, decide_eq_false (Int.not_lt.2 hmn)]
  rfl

theorem Zoned.exists_spans_universal (h : i.Zoned) (hsteady : i.Steady) :
    ∃ m n, i.Spans Instant.universal? m n ∧ m ≤ n := by
  obtain ⟨m, hm⟩ := Option.isSome_iff_exists.1 (Option.isSome_map.trans h.start)
  obtain ⟨n, hn⟩ := Option.isSome_iff_exists.1 (Option.isSome_map.trans h.finish)
  have hspans : i.Spans Instant.universal? m n :=
    ⟨hsteady.start.standsAt_universal hm, hsteady.finish.standsAt_universal hn⟩
  exact ⟨m, n, hspans, hspans.le h.made⟩

theorem LiesIn.spans (h : i.LiesIn zone) :
    i.Spans zone.scale i.start.clock i.finish.clock :=
  ⟨Instant.standsAt_clock h.start, Instant.standsAt_clock h.finish⟩

theorem Spans.isEmpty_iff (hi : i.Spans scale m n) : i.IsEmpty ↔ n ≤ m := by
  rw [IsEmpty, before_eq hi.finish hi.start.place, Except.ok.injEq, decide_eq_false_iff_not,
    Int.not_lt]

/-- An instant lies in an interval if it is not before the first instant and before the last. -/
theorem contains_eq (hi : i.Spans scale m n) (ht : scale t = some x) :
    i.contains t = .ok (decide (m ≤ x ∧ x < n)) := by
  rw [contains, before_eq hi.start ht, before_eq hi.finish ht]
  by_cases hx : x < m
  · have hout : ¬ (m ≤ x ∧ x < n) := fun h => Int.not_lt.2 h.1 hx
    rw [decide_eq_true hx, decide_eq_false hout]
    rfl
  · have hin : (m ≤ x ∧ x < n) ↔ x < n := and_iff_right (Int.not_lt.1 hx)
    rw [decide_eq_false hx, decide_eq_decide.2 hin]
    rfl

theorem contains_iff (hi : i.Spans scale m n) (ht : scale t = some x) :
    i.contains t = .ok true ↔ m ≤ x ∧ x < n := by
  rw [contains_eq hi ht, Except.ok.injEq, decide_eq_true_iff]

/-- Only an instant with a zone lies in an interval between instants with zones. -/
theorem Zoned.isSome_of_contains (hi : i.Zoned) (h : i.contains t = .ok true) :
    t.universal?.isSome = true := by
  cases ht : t.zone with
  | some zone => exact Option.isSome_map.trans (congrArg Option.isSome ht)
  | none =>
      rw [contains, before_of_zone_eq_none ht hi.start] at h
      exact nomatch h

theorem overlaps_eq (hi : i.Spans scale m n) (hj : j.Spans scale k l) :
    i.overlaps j = .ok (decide (m < l ∧ k < n)) := by
  rw [overlaps, before_eq hj.finish hi.start.place, before_eq hi.finish hj.start.place]
  by_cases hml : m < l
  · rw [decide_eq_true hml, decide_eq_decide.2 (and_iff_right hml)]
    rfl
  · have hnot : ¬ (m < l ∧ k < n) := fun h => hml h.1
    rw [decide_eq_false hml, decide_eq_false hnot]
    rfl

theorem overlaps_iff (hi : i.Spans scale m n) (hj : j.Spans scale k l) :
    i.overlaps j = .ok true ↔ m < l ∧ k < n := by
  rw [overlaps_eq hi hj, Except.ok.injEq, decide_eq_true_iff]

/-- An instant between the two of an interval lies in it, whatever zones they are of. -/
theorem contains_of_order? (hstart : t.order? i.start = some .gt)
    (hfinish : t.order? i.finish = some .lt) : i.contains t = .ok true := by
  rw [contains, before, before, hstart, hfinish]
  rfl

/-- Whether two intervals between instants with zones overlap is always settled. -/
theorem Zoned.exists_overlaps_eq_ok (hi : i.Zoned) (hj : j.Zoned) :
    ∃ answer, i.overlaps j = .ok answer := by
  obtain ⟨first, hfirst⟩ := exists_before_eq_ok hi.start hj.finish
  rw [overlaps, hfirst]
  cases first with
  | true => exact exists_before_eq_ok hj.start hi.finish
  | false => exact ⟨false, rfl⟩

theorem Spans.surrounds_iff (hi : i.Spans scale m n) (ht : t.StandsAt scale x) :
    i.Surrounds t ↔ m < x ∧ x < n := by
  rw [Surrounds, before_eq ht hi.start.place, before_eq hi.finish ht.place]
  simp

/-- The instants of a scale in two intervals are those between the later start and the earlier
finish.  The later start is one of them if there are any. -/
theorem exists_contains_iff (hi : i.Spans scale m n) (hj : j.Spans scale k l) :
    (∃ t, (scale t).isSome = true ∧ i.contains t = .ok true ∧ j.contains t = .ok true) ↔
      max m k < min n l := by
  constructor
  · rintro ⟨t, ht, hit, hjt⟩
    obtain ⟨x, hx⟩ := Option.isSome_iff_exists.1 ht
    rw [contains_iff hi hx] at hit
    rw [contains_iff hj hx] at hjt
    omega
  · intro h
    have hplace {t : Instant} {x : Int} (ht : t.StandsAt scale x) : (scale t).isSome = true :=
      Option.isSome_iff_exists.2 ⟨x, ht.place⟩
    rcases Int.le_total m k with hmk | hkm
    · exact ⟨j.start, hplace hj.start, (contains_iff hi hj.start.place).2 (by omega),
        (contains_iff hj hj.start.place).2 (by omega)⟩
    · exact ⟨i.start, hplace hi.start, (contains_iff hi hi.start.place).2 (by omega),
        (contains_iff hj hi.start.place).2 (by omega)⟩

end Spans

/-! ### Overlap and common instants -/

/-- Overlap tells of two intervals whether they have an instant of some kind in common, but for
empty ones.  There is a common instant exactly if they overlap and neither is empty.  They overlap
without a common instant exactly if one is empty and lies strictly inside the other. -/
structure OverlapTells (kind : Instant → Prop) (a b : Interval) : Prop where
  common_iff : (∃ t, kind t ∧ a.contains t = .ok true ∧ b.contains t = .ok true) ↔
    a.overlaps b = .ok true ∧ ¬ a.IsEmpty ∧ ¬ b.IsEmpty
  alone_iff : (a.overlaps b = .ok true ∧
      ¬ ∃ t, kind t ∧ a.contains t = .ok true ∧ b.contains t = .ok true) ↔
    a.IsEmpty ∧ b.Surrounds a.start ∨ b.IsEmpty ∧ a.Surrounds b.start

/-- Overlap tells of intervals on a scale whether they have an instant of the scale in common. -/
theorem Spans.overlapTells {a b : Interval} {scale : Instant → Option Int} {m n k l : Int}
    (ha : a.Spans scale m n) (hb : b.Spans scale k l) (hmn : m ≤ n) (hkl : k ≤ l) :
    OverlapTells (fun t => (scale t).isSome = true) a b where
  common_iff := by
    rw [exists_contains_iff ha hb, overlaps_iff ha hb, ha.isEmpty_iff, hb.isEmpty_iff]
    omega
  alone_iff := by
    rw [exists_contains_iff ha hb, overlaps_iff ha hb, ha.isEmpty_iff, hb.isEmpty_iff,
      hb.surrounds_iff ha.start, ha.surrounds_iff hb.start]
    omega

/-- Overlap tells as much of all common instants if these are of the kind. -/
theorem OverlapTells.congr {kind kind' : Instant → Prop} {a b : Interval}
    (h : OverlapTells kind a b)
    (hkind : ∀ t, a.contains t = .ok true → (kind t ↔ kind' t)) : OverlapTells kind' a b := by
  have hcommon : (∃ t, kind t ∧ a.contains t = .ok true ∧ b.contains t = .ok true) ↔
      ∃ t, kind' t ∧ a.contains t = .ok true ∧ b.contains t = .ok true :=
    exists_congr fun t => and_congr_left fun ht => hkind t ht.1
  exact ⟨hcommon.symm.trans h.common_iff, by rw [← hcommon]; exact h.alone_iff⟩

/-- **Overlap and common instants.**  Let two intervals be admitted by the construction, between
instants with zones.

* Whether they overlap is always settled.
* If the four instants are steady, as instants of zones with fixed offsets are
  (`Instant.steady_of_changes_eq_nil`), overlap tells whether an instant lies in both, of whichever
  zone: it does exactly if they overlap and neither is empty, and they overlap without a common
  instant exactly if one is empty and lies strictly inside the other.
* If the four instants are of one zone, however its clock is changed, overlap tells as much about
  the instants of that zone. -/
theorem overlaps_iff_exists_contains {a b : Interval} (ha : a.Zoned) (hb : b.Zoned) :
    (∃ answer, a.overlaps b = .ok answer) ∧
    (a.Steady → b.Steady → OverlapTells (fun _ => True) a b) ∧
    ∀ zone, a.LiesIn zone → b.LiesIn zone →
      OverlapTells (fun t => t.zone = some zone) a b := by
  refine ⟨ha.exists_overlaps_eq_ok hb, fun hsteady hsteady' => ?_, fun zone hzone hzone' => ?_⟩
  · obtain ⟨m, n, hspans, hmn⟩ := ha.exists_spans_universal hsteady
    obtain ⟨k, l, hspans', hkl⟩ := hb.exists_spans_universal hsteady'
    exact (hspans.overlapTells hspans' hmn hkl).congr fun t ht =>
      iff_of_true (ha.isSome_of_contains ht) trivial
  · have htells := hzone.spans.overlapTells hzone'.spans (hzone.spans.le ha.made)
      (hzone'.spans.le hb.made)
    refine htells.congr fun t _ => ?_
    rw [TimeZone.scale, Option.isSome_ite]

/-- Noon of a day in universal time. -/
def noon : Instant := ⟨⟨2024, 1, 1⟩, 12, 0, 0, 0, false, some (.fixed 0)⟩

/-- The first instant of a day in a zone that is ahead of universal time by some hours. -/
def midnight (day : Nat) (hours : Int) : Instant :=
  ⟨⟨2024, 1, day⟩, 0, 0, 0, 0, false, some (.fixed (hours * 3600000000))⟩

/-- The day of that noon in a zone one hour ahead. -/
def dayOfNoon : Interval :=
  ⟨midnight 1 1, midnight 2 1⟩

theorem spans_noon : Spans Instant.universal? ⟨noon, noon⟩ noon.clock noon.clock := by
  have hsteady : noon.Steady :=
    Instant.steady_of_changes_eq_nil fun _ h => Option.some_inj.1 h ▸ rfl
  have hplace : noon.universal? = some noon.clock := by decide +kernel
  exact ⟨hsteady.standsAt_universal hplace, hsteady.standsAt_universal hplace⟩

theorem steady_midnight (day : Nat) (hours : Int) : (midnight day hours).Steady :=
  Instant.steady_of_changes_eq_nil fun _ h => Option.some_inj.1 h ▸ rfl

theorem spans_midnights (day day' : Nat) (hours hours' : Int) :
    Spans Instant.universal? ⟨midnight day hours, midnight day' hours'⟩
      ((midnight day hours).clock - hours * 3600000000)
      ((midnight day' hours').clock - hours' * 3600000000) :=
  ⟨(steady_midnight day hours).standsAt_universal rfl,
    (steady_midnight day' hours').standsAt_universal rfl⟩

/-- An empty interval inside another one overlaps it without a common instant. -/
theorem overlaps_emptyAtNoon :
    make noon noon = .ok ⟨noon, noon⟩ ∧
    make dayOfNoon.start dayOfNoon.finish = .ok dayOfNoon ∧
    overlaps ⟨noon, noon⟩ dayOfNoon = .ok true ∧
    ¬ ∃ t, contains ⟨noon, noon⟩ t = .ok true ∧ dayOfNoon.contains t = .ok true := by
  have hmade := spans_noon.make_eq_ok (Int.le_refl _)
  refine ⟨hmade, (spans_midnights 1 2 1 1).make_eq_ok (by decide +kernel),
    (overlaps_iff spans_noon (spans_midnights 1 2 1 1)).2 (by decide +kernel), ?_⟩
  rintro ⟨t, ht, -⟩
  obtain ⟨x, hx⟩ := Option.isSome_iff_exists.1 (Zoned.isSome_of_contains ⟨rfl, rfl, hmade⟩ ht)
  rw [contains_iff spans_noon hx] at ht
  omega

/-- New York in the year 2024 from the summer on.  At six in the morning of universal time on the
third of November the clocks are put back from four hours behind it to five. -/
def newYork : TimeZone where
  name := "America/New_York"
  offset := -4 * 3600000000
  changes := [⟨(Date.dayNumber ⟨2024, 11, 3⟩ * 24 + 6) * 3600000000, -5 * 3600000000⟩]
  spaced := trivial

/-- A minute of the hour from one to two of that night, which the clocks show twice. -/
def repeatedHour (minute : Nat) (fold : Bool) : Instant :=
  ⟨⟨2024, 11, 3⟩, 1, minute, 0, 0, fold, some newYork⟩

/-- An interval that starts within the repeated hour of that night, on its first showing, and
finishes within it, on its second. -/
def nightOver (first last : Nat) : Interval :=
  ⟨repeatedHour first false, repeatedHour last true⟩

theorem liesIn_nightOver (first last : Nat) : (nightOver first last).LiesIn newYork :=
  ⟨rfl, rfl⟩

/-- Two intervals over a repeated hour do not overlap, although an instant of another zone lies in
both. -/
theorem overlaps_repeatedHour :
    let t : Instant := ⟨⟨2024, 11, 3⟩, 5, 35, 0, 0, false, some (.fixed 0)⟩
    (nightOver 30 40).overlaps (nightOver 0 20) = .ok false ∧
      (nightOver 30 40).contains t = .ok true ∧ (nightOver 0 20).contains t = .ok true := by
  intro t
  refine ⟨?_, contains_of_order? (by decide +kernel) (by decide +kernel),
    contains_of_order? (by decide +kernel) (by decide +kernel)⟩
  rw [overlaps_eq (liesIn_nightOver 30 40).spans (liesIn_nightOver 0 20).spans]
  exact congrArg Except.ok (by decide +kernel)

/-- Days that touch have no instant in common.  Intervals over a repeated hour that do not overlap
have no instant of their own zone in common. -/
theorem overlaps_iff_exists_contains_touching :
    let next : Interval := ⟨midnight 2 1, midnight 2 (-5)⟩
    (dayOfNoon.Zoned ∧ next.Zoned ∧ dayOfNoon.overlaps next = .ok false ∧
      ¬ ∃ t, dayOfNoon.contains t = .ok true ∧ next.contains t = .ok true) ∧
    (nightOver 30 40).Zoned ∧ (nightOver 0 20).Zoned ∧
      (nightOver 30 40).overlaps (nightOver 0 20) = .ok false ∧
      ¬ ∃ t, t.zone = some newYork ∧ (nightOver 30 40).contains t = .ok true ∧
        (nightOver 0 20).contains t = .ok true := by
  intro next
  have hday := spans_midnights 1 2 1 1
  have hnext := spans_midnights 2 2 1 (-5)
  have hlate := (liesIn_nightOver 30 40).spans
  have hearly := (liesIn_nightOver 0 20).spans
  have hdayZoned : dayOfNoon.Zoned := ⟨rfl, rfl, hday.make_eq_ok (by decide +kernel)⟩
  have hnextZoned : next.Zoned := ⟨rfl, rfl, hnext.make_eq_ok (by decide +kernel)⟩
  have hlateZoned : (nightOver 30 40).Zoned := ⟨rfl, rfl, hlate.make_eq_ok (by decide +kernel)⟩
  have hearlyZoned : (nightOver 0 20).Zoned := ⟨rfl, rfl, hearly.make_eq_ok (by decide +kernel)⟩
  have htouch : dayOfNoon.overlaps next = .ok false := by
    refine (overlaps_eq hday hnext).trans ?_
    exact congrArg Except.ok (by decide +kernel)
  obtain ⟨hnight, -⟩ := overlaps_repeatedHour
  obtain ⟨-, hdays, -⟩ := overlaps_iff_exists_contains hdayZoned hnextZoned
  obtain ⟨-, -, hzone⟩ := overlaps_iff_exists_contains hlateZoned hearlyZoned
  have hdays := hdays ⟨steady_midnight 1 1, steady_midnight 2 1⟩
    ⟨steady_midnight 2 1, steady_midnight 2 (-5)⟩
  have hzone := hzone newYork (liesIn_nightOver 30 40) (liesIn_nightOver 0 20)
  refine ⟨⟨hdayZoned, hnextZoned, htouch, ?_⟩, hlateZoned, hearlyZoned, hnight, ?_⟩
  · rintro ⟨t, ht⟩
    exact nomatch htouch.symm.trans (hdays.common_iff.1 ⟨t, trivial, ht⟩).1
  · exact fun hcommon => nomatch hnight.symm.trans (hzone.common_iff.1 hcommon).1

end Interval

end MetricQuery
