import Mathlib.Tactic.ByContra
import MetricQuery.Calendar.Instant

/-!
# Readings of a clock and moments

A reading of the clock is settled if it stands for the same moment whether it is taken for the first
or for the second one of two, so neither skipped nor repeated.  Settled readings are in the order of
their moments (`TimeZone.universal_lt_of_settled`), since changes of the clock are far enough apart;
in particular a moment has at most one settled reading.  Other readings may be out of order.

## Main definitions

* `ClockChange.Settled` : readings that no change skips or repeats.
* `Instant.Steady` : instants that the clock and universal time put into the same order with every
  reading of the clock.

## Main results

* `ClockChange.Settled.cases` : a settled reading lies before a change or behind it.
* `TimeZone.universal_lt_of_settled` : settled readings and their moments.
* `Instant.steady_of_changes_eq_nil`, `Instant.steady_of_far` : instants of a zone whose clock is
  never changed, and instants far from all changes.
-/

namespace MetricQuery

namespace ClockChange

/-- A reading stands for one moment, whichever of two it is taken for. -/
def Settled (previous : Int) (changes : List ClockChange) (clock : Int) : Prop :=
  offsetBehind previous changes clock false = offsetBehind previous changes clock true

section Settled

variable {previous clock clock' moment : Int} {change : ClockChange}
  {changes rest : List ClockChange} {second second' : Bool}

theorem reading_true_le : change.reading previous true ≤ change.reading previous false := by
  simp only [reading, if_true, Bool.false_eq_true, if_false]
  omega

theorem reading_true_le_reading :
    change.reading previous true ≤ change.reading previous second := by
  cases second with
  | false => exact reading_true_le
  | true => exact Int.le_refl _

theorem reading_le_reading_false :
    change.reading previous second ≤ change.reading previous false := by
  cases second with
  | false => exact Int.le_refl _
  | true => exact reading_true_le

theorem Spaced.tail (h : Spaced previous (change :: rest)) : Spaced change.offset rest := by
  cases rest with
  | nil => exact trivial
  | cons next rest => exact h.2

/-- Changes that are far enough apart are in the order of their moments. -/
theorem Spaced.moment_le (h : Spaced previous (change :: rest)) :
    ∀ next ∈ rest.head?, change.moment ≤ next.moment := by
  cases rest with
  | nil => exact nofun
  | cons next rest =>
      rintro _ ⟨⟩
      have hle := h.1
      simp only [reading, if_true, Bool.false_eq_true, if_false] at hle
      omega

theorem offsetBehind_of_lt (h : clock < change.reading previous true) :
    offsetBehind previous (change :: rest) clock second = previous :=
  if_pos (Int.lt_of_lt_of_le h reading_true_le_reading)

theorem offsetBehind_of_le (h : change.reading previous false ≤ clock) :
    offsetBehind previous (change :: rest) clock second =
      offsetBehind change.offset rest clock second :=
  if_neg (Int.not_lt.2 (Int.le_trans reading_le_reading_false h))

/-- A reading that one change skips or repeats counts for no later one. -/
theorem offsetBehind_of_lt_reading (hspaced : Spaced previous (change :: rest))
    (h : clock < change.reading previous false) :
    offsetBehind change.offset rest clock true = change.offset := by
  cases rest with
  | nil => rfl
  | cons next rest => exact if_pos (Int.lt_of_lt_of_le h hspaced.1)

/-- A settled reading lies before a change or behind it. -/
theorem Settled.cases (h : Settled previous (change :: rest) clock)
    (hspaced : Spaced previous (change :: rest)) :
    clock < change.reading previous true ∨
      change.reading previous false ≤ clock ∧ Settled change.offset rest clock := by
  by_cases hbefore : clock < change.reading previous true
  · exact .inl hbefore
  have hbehind : change.reading previous false ≤ clock := by
    by_contra hle
    have hoffset : offsetBehind previous (change :: rest) clock true = change.offset :=
      (if_neg hbefore).trans (offsetBehind_of_lt_reading hspaced (Int.not_le.1 hle))
    have hprevious : offsetBehind previous (change :: rest) clock false = previous :=
      if_pos (Int.not_le.1 hle)
    have hsame : previous = change.offset := hprevious.symm.trans (h.trans hoffset)
    simp only [reading, hsame] at hbefore hle
    omega
  refine .inr ⟨hbehind, ?_⟩
  have hsettled : offsetBehind previous (change :: rest) clock false =
      offsetBehind previous (change :: rest) clock true := h
  rwa [offsetBehind_of_le hbehind, offsetBehind_of_le hbehind] at hsettled

/-- A settled reading stands for no moment before those that its offset and all changes leave. -/
theorem Settled.le_moment (h : Settled previous changes clock) (hspaced : Spaced previous changes)
    (hmoment : ∀ change ∈ changes.head?, moment ≤ change.moment)
    (hclock : moment + previous ≤ clock) :
    moment ≤ clock - offsetBehind previous changes clock second := by
  induction changes generalizing previous moment with
  | nil =>
      rw [offsetBehind]
      omega
  | cons change rest ih =>
      rcases h.cases hspaced with hbefore | ⟨hbehind, hrest⟩
      · rw [offsetBehind_of_lt hbefore]
        omega
      · have hle : change.moment + change.offset ≤ clock := by
          simp only [reading, Bool.false_eq_true, if_false] at hbehind
          omega
        rw [offsetBehind_of_le hbehind]
        exact Int.le_trans (hmoment change rfl) (ih hrest hspaced.tail hspaced.moment_le hle)

/-- Settled readings are in the order of the moments that they stand for. -/
theorem Settled.moment_lt (h : Settled previous changes clock)
    (h' : Settled previous changes clock') (hspaced : Spaced previous changes)
    (hlt : clock < clock') :
    clock - offsetBehind previous changes clock second <
      clock' - offsetBehind previous changes clock' second' := by
  induction changes generalizing previous with
  | nil =>
      rw [offsetBehind, offsetBehind]
      omega
  | cons change rest ih =>
      rcases h.cases hspaced with hbefore | ⟨hbehind, hrest⟩
      · rw [offsetBehind_of_lt hbefore]
        rcases h'.cases hspaced with hbefore' | ⟨hbehind', hrest'⟩
        · rw [offsetBehind_of_lt hbefore']
          omega
        -- The moment of the change lies between the two.
        · have hchange : change.moment ≤
              clock' - offsetBehind change.offset rest clock' second' := by
            refine hrest'.le_moment hspaced.tail hspaced.moment_le ?_
            simp only [reading, Bool.false_eq_true, if_false] at hbehind'
            omega
          rw [offsetBehind_of_le hbehind']
          simp only [reading, if_true] at hbefore
          omega
      · have hbehind' : change.reading previous false ≤ clock' := by omega
        rcases h'.cases hspaced with hbefore' | ⟨-, hrest'⟩
        · exact absurd (Int.lt_of_lt_of_le hbefore' reading_true_le) (Int.not_lt.2 hbehind')
        · rw [offsetBehind_of_le hbehind, offsetBehind_of_le hbehind']
          exact ih hrest hrest' hspaced.tail

end Settled

end ClockChange

namespace TimeZone

variable {zone : TimeZone} {clock clock' : Int} {second second' : Bool}

theorem settled_of_isSettled (h : zone.isSettled clock = true) :
    ClockChange.Settled zone.offset zone.changes clock :=
  eq_of_beq h

theorem universal_lt_of_settled (h : zone.isSettled clock = true)
    (h' : zone.isSettled clock' = true) (hlt : clock < clock') :
    zone.universal clock second < zone.universal clock' second' :=
  (settled_of_isSettled h).moment_lt (settled_of_isSettled h') zone.spaced hlt

/-- Settled readings are equal exactly if they stand for the same moment. -/
theorem universal_eq_iff_of_settled (h : zone.isSettled clock = true)
    (h' : zone.isSettled clock' = true) :
    zone.universal clock second = zone.universal clock' second' ↔ clock = clock' := by
  constructor
  · intro heq
    rcases Int.lt_trichotomy clock clock' with hlt | hclock | hgt
    · exact absurd heq (Int.ne_of_lt (universal_lt_of_settled h h' hlt))
    · exact hclock
    · exact absurd heq.symm (Int.ne_of_lt (universal_lt_of_settled h' h hgt))
  · rintro rfl
    cases second <;> cases second' <;>
      simp only [universal, offsetAt, settled_of_isSettled h |>.symm]

end TimeZone

/-! ### Steady instants -/

namespace ClockChange

variable {previous clock clock' bound : Int} {changes : List ClockChange} {second second' : Bool}

/-- Offsets that all lie within a bound. -/
theorem natAbs_offsetBehind_le (hprevious : previous.natAbs ≤ bound)
    (hchanges : ∀ change ∈ changes, (change.offset.natAbs : Int) ≤ bound) :
    ((offsetBehind previous changes clock second).natAbs : Int) ≤ bound := by
  induction changes generalizing previous with
  | nil => exact hprevious
  | cons change rest ih =>
      obtain ⟨hchange, hrest⟩ := List.forall_mem_cons.1 hchanges
      rw [offsetBehind]
      split
      · exact hprevious
      · exact ih hchange hrest

/-- Readings on the same side of every change have the same offset. -/
theorem offsetBehind_congr (hprevious : (previous.natAbs : Int) ≤ bound)
    (hchanges : ∀ change ∈ changes, (change.offset.natAbs : Int) ≤ bound)
    (hside : ∀ change ∈ changes,
      clock < change.moment - bound ∧ clock' < change.moment - bound ∨
        change.moment + bound ≤ clock ∧ change.moment + bound ≤ clock') :
    offsetBehind previous changes clock second = offsetBehind previous changes clock' second' := by
  induction changes generalizing previous with
  | nil => rfl
  | cons change rest ih =>
      obtain ⟨hchange, hrest⟩ := List.forall_mem_cons.1 hchanges
      obtain ⟨hfirst, hlater⟩ := List.forall_mem_cons.1 hside
      have hlow : change.moment - bound ≤ change.reading previous true := by
        simp only [reading, if_true]
        omega
      have hhigh : change.reading previous false ≤ change.moment + bound := by
        simp only [reading, Bool.false_eq_true, if_false]
        omega
      rcases hfirst with ⟨hbefore, hbefore'⟩ | ⟨hbehind, hbehind'⟩
      · rw [offsetBehind_of_lt (Int.lt_of_lt_of_le hbefore hlow),
          offsetBehind_of_lt (Int.lt_of_lt_of_le hbefore' hlow)]
      · rw [offsetBehind_of_le (Int.le_trans hhigh hbehind),
          offsetBehind_of_le (Int.le_trans hhigh hbehind')]
        exact ih hchange hrest hlater

end ClockChange

namespace Instant

/-- The clock of an instant and universal time put it into the same order with every reading of that
clock. -/
def Steady (t : Instant) : Prop :=
  ∀ zone, t.zone = some zone → ∀ clock second,
    (clock < t.clock ↔ zone.universal clock second < zone.universal t.clock t.fold) ∧
      (t.clock < clock ↔ zone.universal t.clock t.fold < zone.universal clock second)

variable {t : Instant}

/-- An instant of a zone whose clock is never changed is steady. -/
theorem steady_of_changes_eq_nil (h : ∀ zone, t.zone = some zone → zone.changes = []) :
    t.Steady := by
  intro zone hzone clock second
  simp only [TimeZone.universal, TimeZone.offsetAt, h zone hzone, ClockChange.offsetBehind]
  omega

/-- An instant is steady if it is far from all changes of the clock: three times as far as the clock
is ever ahead of universal time or behind it. -/
theorem steady_of_far {zone : TimeZone} (hzone : t.zone = some zone) {bound : Int}
    (hoffset : (zone.offset.natAbs : Int) ≤ bound)
    (hchanges : ∀ change ∈ zone.changes, (change.offset.natAbs : Int) ≤ bound)
    (hfar : ∀ change ∈ zone.changes,
      t.clock < change.moment - 3 * bound ∨ change.moment + 3 * bound ≤ t.clock) :
    t.Steady := by
  intro zone' hsame clock second
  obtain rfl : zone = zone' := Option.some_inj.1 (hzone.symm.trans hsame)
  have hbound (c : Int) (f : Bool) : ((zone.offsetAt c f).natAbs : Int) ≤ bound :=
    ClockChange.natAbs_offsetBehind_le hoffset hchanges
  have hthere := hbound clock second
  have hhere := hbound t.clock t.fold
  simp only [TimeZone.universal]
  by_cases hnear : (clock - t.clock).natAbs ≤ 2 * bound
  -- Readings near the instant are behind the same changes.
  · have hoffsets : zone.offsetAt clock second = zone.offsetAt t.clock t.fold :=
      ClockChange.offsetBehind_congr hoffset hchanges fun change hchange =>
        (hfar change hchange).imp (fun _ => ⟨by omega, by omega⟩) fun _ => ⟨by omega, by omega⟩
    omega
  · omega

end Instant

end MetricQuery
