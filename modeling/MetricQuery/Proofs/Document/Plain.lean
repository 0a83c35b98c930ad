import MetricQuery.Proofs.Document.Fraction
import MetricQuery.Proofs.Document.Integer
import MetricQuery.Proofs.Document.Read

/-!
# Plain scalars

The form of a scalar without quotes shows its kind, and most scalars have a value of the kind that
they show.  Those that have none are numbers and instants which cannot be: an integer of too many
digits or of none, a number of too many parts, and an instant whose date, time or offset does not
exist.

## Main definitions

* `Stamp.Exists` : the date of a stamp is one of the calendar, and its time one of a day.
* `IsImpossible` : a scalar shows the kind of numbers or instants and is none.

## Main results

* `exists_readTime_iff` : which dates and instants exist.
* `Tag.form_of_ofPlain` : the forms that the kinds go with.
* `exists_fault_read_ofPlain_iff` : the plain scalars without a value are the impossible ones.
-/

namespace MetricQuery.Document

open Except (endsIn_ok endsIn_error)

/-! ### Dates and times -/

/-- The date of a stamp is one of the calendar, and if it has a time, that is one of a day and its
offset less than a day. -/
structure Stamp.Exists (stamp : Stamp) : Prop where
  year : 1 ≤ stamp.year ∧ stamp.year ≤ 9999
  month : 1 ≤ Literal.digitsValue stamp.month ∧ Literal.digitsValue stamp.month ≤ 12
  day : 1 ≤ Literal.digitsValue stamp.day ∧ Literal.digitsValue stamp.day ≤
    Date.monthLength stamp.year (Literal.digitsValue stamp.month)
  time : ∀ time ∈ stamp.time, (time.1 ≤ 23 ∧ time.2.1 ≤ 59 ∧ time.2.2.1 ≤ 59) ∧
    ∀ minutes ∈ stamp.offset, minutes.natAbs < 1440

theorem Stamp.exists_iff {stamp : Stamp} : stamp.Exists ↔
    ((1 ≤ stamp.year ∧ stamp.year ≤ 9999) ∧
      (1 ≤ Literal.digitsValue stamp.month ∧ Literal.digitsValue stamp.month ≤ 12) ∧
      1 ≤ Literal.digitsValue stamp.day ∧ Literal.digitsValue stamp.day ≤
        Date.monthLength stamp.year (Literal.digitsValue stamp.month)) ∧
    ∀ time ∈ stamp.time, (time.1 ≤ 23 ∧ time.2.1 ≤ 59 ∧ time.2.2.1 ≤ 59) ∧
      ∀ minutes ∈ stamp.offset, minutes.natAbs < 1440 :=
  ⟨fun h => ⟨⟨h.year, h.month, h.day⟩, h.time⟩, fun h => ⟨h.1.1, h.1.2.1, h.1.2.2, h.2⟩⟩

theorem Date.exists_make_iff {year month day : Nat} :
    (∃ d, Date.make year month day = .ok d) ↔
      (1 ≤ year ∧ year ≤ 9999) ∧ (1 ≤ month ∧ month ≤ 12) ∧
        1 ≤ day ∧ day ≤ Date.monthLength year month := by
  unfold Date.make
  split_ifs with hyear hmonth hday
  · exact iff_of_false (fun ⟨_, h⟩ => nomatch h) (by omega)
  · exact iff_of_false (fun ⟨_, h⟩ => nomatch h) (by omega)
  · exact iff_of_false (fun ⟨_, h⟩ => nomatch h) (by omega)
  · exact iff_of_true ⟨_, rfl⟩ (by omega)

/-- A time of a day exists if its date does and it is one of a day. -/
theorem Instant.exists_make_none_iff {year month day hour minute second : Nat} (microsecond : Nat) :
    (∃ t, Instant.make year month day hour minute second microsecond none = .ok t) ↔
      (∃ d, Date.make year month day = .ok d) ∧ hour ≤ 23 ∧ minute ≤ 59 ∧ second ≤ 59 := by
  unfold Instant.make
  cases Date.make year month day with
  | error fault => exact iff_of_false (fun ⟨_, h⟩ => nomatch h) (fun ⟨⟨_, h⟩, _⟩ => nomatch h)
  | ok date =>
      dsimp only [bind, Except.bind, throw, throwThe, MonadExceptOf.throw, pure, Except.pure]
      split_ifs with hhour hminute hsecond
      · exact iff_of_false (fun ⟨_, h⟩ => nomatch h) (by omega)
      · exact iff_of_false (fun ⟨_, h⟩ => nomatch h) (by omega)
      · exact iff_of_false (fun ⟨_, h⟩ => nomatch h) (by omega)
      · exact iff_of_true ⟨_, rfl⟩ ⟨⟨_, rfl⟩, by omega⟩

/-- An offset is checked in front of the date and the time. -/
theorem Instant.make_some (year month day hour minute second microsecond : Nat) (minutes : Int) :
    Instant.make year month day hour minute second microsecond (some minutes) =
      if 1440 ≤ minutes.natAbs then .error (.offset minutes)
      else (Instant.make year month day hour minute second microsecond none).map fun t =>
        { t with zone := some (TimeZone.fixed (minutes * 60000000)) } := by
  unfold Instant.make
  dsimp only
  split
  · rfl
  · cases Date.make year month day with
    | error fault => rfl
    | ok date =>
        dsimp only [bind, Except.bind, throw, throwThe, MonadExceptOf.throw, pure, Except.pure]
        split_ifs <;> rfl

/-- An instant exists if its date does, its time is one of a day and its offset is less than a
day. -/
theorem Instant.exists_make_iff {year month day hour minute second : Nat} (microsecond : Nat)
    {offset : Option Int} :
    (∃ t, Instant.make year month day hour minute second microsecond offset = .ok t) ↔
      (∃ d, Date.make year month day = .ok d) ∧ (hour ≤ 23 ∧ minute ≤ 59 ∧ second ≤ 59) ∧
        ∀ minutes ∈ offset, minutes.natAbs < 1440 := by
  rw [← and_assoc, ← Instant.exists_make_none_iff microsecond]
  cases offset with
  | none => simp
  | some minutes =>
      rw [Instant.make_some]
      split_ifs with hspan
      · exact iff_of_false (fun ⟨_, h⟩ => nomatch h) fun h => absurd (h.2 minutes rfl) (by omega)
      · have hoffset : ∀ m ∈ some minutes, m.natAbs < 1440 := fun m hm =>
          Option.some.inj hm ▸ Nat.not_le.1 hspan
        rw [and_iff_left hoffset]
        constructor
        · rintro ⟨_, h⟩
          obtain ⟨t, ht, -⟩ := Except.map_eq_ok_iff.1 h
          exact ⟨t, ht⟩
        · rintro ⟨t, ht⟩
          rw [ht]
          exact ⟨_, rfl⟩

/-- A written date or instant has a value exactly if its parts exist. -/
theorem exists_readTime_iff {s : String} (hend : s.toList.getLast? ≠ some '\n') :
    (∃ d, readTime s = .ok d) ↔ ∃ stamp, readStamp? s.toList = some stamp ∧ stamp.Exists := by
  unfold readTime
  dsimp only
  rw [if_neg hend]
  cases readStamp? s.toList with
  | none => exact iff_of_false (fun ⟨_, h⟩ => nomatch h) (fun ⟨_, h, _⟩ => nomatch h)
  | some stamp =>
      have hstamp : (∃ read, some stamp = some read ∧ read.Exists) ↔ stamp.Exists :=
        ⟨fun ⟨_, heq, h⟩ => Option.some.inj heq ▸ h, fun h => ⟨stamp, rfl, h⟩⟩
      rw [hstamp, Stamp.exists_iff, ← Date.exists_make_iff]
      dsimp only
      cases stamp.time with
      | none =>
          cases Date.make stamp.year (Literal.digitsValue stamp.month)
            (Literal.digitsValue stamp.day) with
          | ok d => exact iff_of_true ⟨_, rfl⟩ ⟨⟨_, rfl⟩, nofun⟩
          | error fault =>
              exact iff_of_false (fun ⟨_, h⟩ => nomatch h) (fun ⟨⟨_, h⟩, _⟩ => nomatch h)
      | some time =>
          obtain ⟨hour, minute, second, fraction⟩ := time
          have htime : (∀ time ∈ some (hour, minute, second, fraction),
              (time.1 ≤ 23 ∧ time.2.1 ≤ 59 ∧ time.2.2.1 ≤ 59) ∧
                ∀ minutes ∈ stamp.offset, minutes.natAbs < 1440) ↔
              (hour ≤ 23 ∧ minute ≤ 59 ∧ second ≤ 59) ∧
                ∀ minutes ∈ stamp.offset, minutes.natAbs < 1440 :=
            ⟨fun h => h _ rfl, fun h _ heq => Option.some.inj heq ▸ h⟩
          dsimp only
          rw [htime, ← Instant.exists_make_iff (microseconds fraction)]
          cases Instant.make stamp.year (Literal.digitsValue stamp.month)
            (Literal.digitsValue stamp.day) hour minute second (microseconds fraction)
            stamp.offset with
          | ok t => exact iff_of_true ⟨_, rfl⟩ ⟨_, rfl⟩
          | error fault => exact iff_of_false (fun ⟨_, h⟩ => nomatch h) (fun ⟨_, h⟩ => nomatch h)

/-! ### Kinds -/

section Kinds

variable {s : String} (hend : s.toList.getLast? ≠ some '\n')

include hend

theorem Tag.form_of_ofPlain :
    (Tag.ofPlain s = .bool → s ∈ truthWords) ∧
    (Tag.ofPlain s = .float → isFloat s.toList) ∧
    (Tag.ofPlain s = .int → isInteger (dropSign s.toList)) ∧
    (Tag.ofPlain s = .timestamp → isStamp s.toList) := by
  unfold Tag.ofPlain
  dsimp only
  rw [if_neg hend, String.ofList_toList]
  split_ifs with hnull hbool hfloat hint htime <;> simp_all

end Kinds

/-! ### Faults -/

theorem endsIn_readInteger (s : List Char) :
    (readInteger s).EndsIn (· ≠ .malformed) fun _ => True := by
  have hdecimal (row : List Char) : (readDecimal row).EndsIn (· ≠ .malformed) fun _ => True := by
    unfold readDecimal
    split
    · exact endsIn_ok trivial
    · exact endsIn_error nofun
    · exact endsIn_error nofun
  have hbase (base : Nat) (row : List Char) :
      (readInBase base row).EndsIn (· ≠ .malformed) fun _ => True := by
    unfold readInBase
    dsimp only
    split
    · exact endsIn_ok trivial
    · exact endsIn_error nofun
  have hmagnitude (body : List Char) :
      (readMagnitude body).EndsIn (· ≠ .malformed) fun _ => True := by
    unfold readMagnitude
    split
    · exact endsIn_error nofun
    · exact endsIn_ok trivial
    · exact hbase _ _
    · exact hbase _ _
    · exact hbase _ _
    · refine iteInduction (fun _ => ?_) fun _ => hdecimal _
      exact (Except.EndsIn.mapM fun part _ => hdecimal part).bind fun _ _ => endsIn_ok trivial
  unfold readInteger
  exact (hmagnitude _).bind fun _ _ => endsIn_ok trivial

theorem endsIn_readFloat (s : String) : (readFloat s).EndsIn (· ≠ .malformed) fun _ => True := by
  have hfraction (part : List Char) :
      (readFraction part).EndsIn (· ≠ .malformed) fun _ => True := by
    unfold readFraction
    split
    · exact endsIn_ok trivial
    · exact endsIn_error (by simp)
  have hsum (xs : List Binary64) (base : Nat) (sum : Binary64) :
      (sumScaled base sum xs).EndsIn (· ≠ .malformed) fun _ => True := by
    induction xs generalizing base sum with
    | nil => exact endsIn_ok trivial
    | cons x xs ih =>
        rw [sumScaled]
        split
        · exact endsIn_error (by simp)
        · exact ih _ _
  have hmagnitude (body : List Char) :
      (readFloatMagnitude body).EndsIn (· ≠ .malformed) fun _ => True := by
    unfold readFloatMagnitude
    split_ifs
    · exact endsIn_ok trivial
    · exact endsIn_ok trivial
    · exact (Except.EndsIn.mapM fun part _ => hfraction part).bind fun _ _ => hsum _ _ _
    · exact hfraction _
  unfold readFloat
  dsimp only
  refine iteInduction (fun _ => endsIn_error (by simp)) fun _ => ?_
  exact (hmagnitude _).bind fun _ _ => endsIn_ok trivial

theorem endsIn_readTime (s : String) : (readTime s).EndsIn (· ≠ .malformed) fun _ => True := by
  have hcalendar {α : Type} (x : Except CalendarFault α) :
      (x.mapError DocumentFault.calendar).EndsIn (· ≠ .malformed) fun _ => True := by
    cases x with
    | ok a => exact endsIn_ok trivial
    | error fault => exact endsIn_error nofun
  unfold readTime
  dsimp only
  split
  · exact endsIn_error nofun
  · split
    · exact hcalendar _
    · exact hcalendar _

/-- A plain scalar that its form makes a number or an instant and that is none. -/
def IsImpossible (s : String) : Prop :=
  Tag.ofPlain s = .int ∧ LacksInteger (dropSign s.toList) ∨
  Tag.ofPlain s = .float ∧ maxParts ≤ (dropSign s.toList).count ':' ∨
  Tag.ofPlain s = .timestamp ∧ ∀ stamp, readStamp? s.toList = some stamp → ¬ stamp.Exists

/-- A reading that never finds a text malformed fails exactly if it finds no value. -/
theorem exists_fault_iff {α : Type} {x : Except DocumentFault α}
    (h : x.EndsIn (· ≠ .malformed) fun _ => True) :
    (∃ fault, x = .error fault ∧ fault ≠ .malformed) ↔ ¬ ∃ a, x = .ok a := by
  cases x with
  | ok a => exact iff_of_false (fun ⟨_, h, _⟩ => nomatch h) (not_not.2 ⟨a, rfl⟩)
  | error fault => exact iff_of_true ⟨fault, rfl, h⟩ fun ⟨_, h⟩ => nomatch h

theorem exists_fault_map_iff {α : Type} {x : Except DocumentFault α} (wrap : α → Datum)
    (h : x.EndsIn (· ≠ .malformed) fun _ => True) :
    (∃ fault, x.map wrap = .error fault ∧ fault ≠ .malformed) ↔ ¬ ∃ a, x = .ok a := by
  cases x with
  | ok a => exact iff_of_false (fun ⟨_, h, _⟩ => nomatch h) (not_not.2 ⟨a, rfl⟩)
  | error fault => exact iff_of_true ⟨fault, rfl, h⟩ fun ⟨_, h⟩ => nomatch h

theorem exists_readTruth {s : String} (h : s ∈ Tag.truthWords) : ∃ b, readTruth s = .ok b := by
  have hall : ∀ word ∈ Tag.truthWords, (truthValues.find? (·.1 == word.lowerCase)).isSome := by
    decide +kernel
  obtain ⟨⟨word, b⟩, hfound⟩ := Option.isSome_iff_exists.1 (hall s h)
  exact ⟨b, by rw [readTruth, hfound]⟩

/-- **A plain scalar** without a line end has a value of its kind, or is malformed, unless it is an
integer or an instant that does not exist. -/
theorem exists_fault_read_ofPlain_iff {s : String} (hend : s.toList.getLast? ≠ some '\n') :
    (∃ fault, (Tag.ofPlain s).read s = .error fault ∧ fault ≠ .malformed) ↔ IsImpossible s := by
  obtain ⟨hbool, hfloat, hint, htime⟩ := Tag.form_of_ofPlain hend
  unfold IsImpossible
  cases htag : Tag.ofPlain s with
  | bool =>
      obtain ⟨b, hb⟩ := exists_readTruth (hbool htag)
      simp [Tag.read, hb, Except.map]
  | float =>
      rw [Tag.read, exists_fault_map_iff Datum.float (endsIn_readFloat s),
        exists_readFloat_iff (hfloat htag)]
      simp
  | int =>
      rw [Tag.read, exists_fault_map_iff Datum.int (endsIn_readInteger s.toList),
        exists_readInteger_iff (hint htag)]
      simp
  | timestamp =>
      rw [Tag.read, exists_fault_iff (endsIn_readTime s), exists_readTime_iff hend]
      simp
  | null | binary | omap | pairs | set | str | seq | map | merge | value | other =>
      refine iff_of_false ?_ (by simp)
      rintro ⟨fault, hread, hfault⟩
      have hmem := Node.mem_selectiveTags_of_read_eq_error hread hfault
      exact absurd hmem (by decide)

end MetricQuery.Document
