/-!
# Dates and timestamps

Dates of the Gregorian calendar from year 1 to 9999, and timestamps to the microsecond with or
without an offset from universal time. Both carry a proof that they exist, so a `Date` is a real
day and an offset is less than a day.

* `Date.make?_eq_some_iff`: a date is made exactly of a year, a month and a day that exist.
-/

namespace ApiModel

/-! ## Dates -/

/-- Whether a year has a twenty-ninth of February. -/
def isLeapYear (year : Nat) : Bool := year % 4 == 0 && (year % 100 != 0 || year % 400 == 0)

/-- The number of days of a month. -/
def daysInMonth (year month : Nat) : Nat :=
  match month with
  | 2 => if isLeapYear year then 29 else 28
  | 4 | 6 | 9 | 11 => 30
  | _ => 31

/-- Whether the calendar has such a day. -/
def IsDay (year month day : Nat) : Prop :=
  1 ≤ year ∧ year ≤ 9999 ∧ 1 ≤ month ∧ month ≤ 12 ∧ 1 ≤ day ∧ day ≤ daysInMonth year month

instance (year month day : Nat) : Decidable (IsDay year month day) :=
  inferInstanceAs (Decidable (_ ∧ _))

/-- A day of the calendar. -/
structure Date where
  /-- The year. -/
  year : Nat
  /-- The month, from 1. -/
  month : Nat
  /-- The day of the month, from 1. -/
  day : Nat
  /-- The calendar has it. -/
  exists_day : IsDay year month day
  deriving DecidableEq

namespace Date

/-- The day with the given numbers, if there is one. -/
def make? (year month day : Nat) : Option Date :=
  if h : IsDay year month day then some ⟨year, month, day, h⟩ else none

theorem make?_eq_some_iff {year month day : Nat} {d : Date} :
    make? year month day = some d ↔ d.year = year ∧ d.month = month ∧ d.day = day := by
  unfold make?
  split
  · simp only [Option.some.injEq]
    constructor
    · rintro rfl
      exact ⟨rfl, rfl, rfl⟩
    · rintro ⟨rfl, rfl, rfl⟩
      rfl
  · rename_i h
    simp only [reduceCtorEq, false_iff]
    rintro ⟨rfl, rfl, rfl⟩
    exact h d.exists_day

/-- A number with zeros in front up to a width. -/
def padded (width n : Nat) : String :=
  let s := toString n
  String.ofList (List.replicate (width - s.length) '0') ++ s

/-- The date as year, month and day with hyphens between them. -/
def iso (d : Date) : String :=
  padded 4 d.year ++ "-" ++ padded 2 d.month ++ "-" ++ padded 2 d.day

/-- The days before the first of January of a year. -/
def daysBeforeYear (year : Nat) : Nat :=
  let y := year - 1
  y * 365 + y / 4 - y / 100 + y / 400

/-- The days in the first months of a year. -/
def daysInMonths (year : Nat) : Nat → Nat
  | 0 => 0
  | m + 1 => daysInMonths year m + daysInMonth year (m + 1)

/-- The number of the day, the first of January of year 1 being the first. -/
def ordinal (d : Date) : Nat :=
  daysBeforeYear d.year + daysInMonths d.year (d.month - 1) + d.day

end Date

/-! ## Timestamps -/

/-- A day with a time of day, and possibly an offset from universal time. -/
structure Timestamp where
  /-- The day. -/
  date : Date
  /-- The hour. -/
  hour : Nat
  /-- The minute. -/
  minute : Nat
  /-- The second. -/
  second : Nat
  /-- The millionths of a second. -/
  micros : Nat
  /-- The minutes that the clock is ahead of universal time. -/
  offset : Option Int
  /-- The time of day exists and the offset is less than a day. -/
  exists_time : hour < 24 ∧ minute < 60 ∧ second < 60 ∧ micros < 1000000 ∧
    ∀ o ∈ offset, -1440 < o ∧ o < 1440
  deriving DecidableEq

namespace Timestamp

/-- The timestamp with the given numbers, if there is one. -/
def make? (date : Date) (hour minute second micros : Nat) (offset : Option Int) :
    Option Timestamp :=
  if h : hour < 24 ∧ minute < 60 ∧ second < 60 ∧ micros < 1000000 ∧
      ∀ o ∈ offset, -1440 < o ∧ o < 1440 then
    some ⟨date, hour, minute, second, micros, offset, h⟩
  else none

/-- An offset as sign, hours and minutes. -/
def offsetText (offset : Int) : String :=
  (if offset < 0 then "-" else "+") ++ Date.padded 2 (offset.natAbs / 60) ++ ":"
    ++ Date.padded 2 (offset.natAbs % 60)

/-- The timestamp with the given text between date and time. -/
def isoWith (gap : String) (t : Timestamp) : String :=
  t.date.iso ++ gap ++ Date.padded 2 t.hour ++ ":" ++ Date.padded 2 t.minute ++ ":"
    ++ Date.padded 2 t.second
    ++ (if t.micros = 0 then "" else "." ++ Date.padded 6 t.micros)
    ++ (match t.offset with | some o => offsetText o | none => "")

/-- The timestamp with a `T` between date and time. -/
def iso (t : Timestamp) : String := t.isoWith "T"

/-- The microseconds since the start of year 1, by the clock of the timestamp. -/
def clock (t : Timestamp) : Int :=
  (((t.date.ordinal * 24 + t.hour) * 60 + t.minute) * 60 + t.second) * 1000000 + t.micros

/-- Whether two timestamps are equal: the same instant if both have an offset, the same time of the
clock if neither has. -/
def same (s t : Timestamp) : Bool :=
  match s.offset, t.offset with
  | some a, some b => s.clock - a * 60000000 == t.clock - b * 60000000
  | none, none => s.clock == t.clock
  | _, _ => false

end Timestamp

end ApiModel
