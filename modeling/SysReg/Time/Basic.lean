/-!
# Dates and times

Dates are those of the Gregorian calendar, extended to all years before its introduction. The years run
from -262143 to 262142; `Date.succ?` and `Date.pred?` give no date beyond them.

A time is a second of a day in coordinated universal time with a fraction in nanoseconds. The
second may be 60 in any minute, so that a leap second is kept as such.
-/

/-! ## Calendar dates -/

namespace SysReg

/-- Whether a year has 366 days. -/
def isLeapYear (year : Int) : Bool :=
  year % 4 == 0 && (year % 100 != 0 || year % 400 == 0)

/-- The number of days in a month. -/
def daysInMonth (year : Int) (month : Nat) : Nat :=
  if month = 2 then if isLeapYear year then 29 else 28
  else if month = 4 ∨ month = 6 ∨ month = 9 ∨ month = 11 then 30
  else 31

/-- The three numbers name a day of the calendar, in a year that it covers. -/
def IsDate (year : Int) (month day : Nat) : Prop :=
  (-262143 ≤ year ∧ year ≤ 262142) ∧ (1 ≤ month ∧ month ≤ 12) ∧
    (1 ≤ day ∧ day ≤ daysInMonth year month)

instance (year : Int) (month day : Nat) : Decidable (IsDate year month day) :=
  inferInstanceAs (Decidable (_ ∧ _))

/-- A day of the calendar. -/
structure Date where
  year : Int
  month : Nat
  day : Nat
  isDate : IsDate year month day
  deriving DecidableEq

namespace Date

/-- The date of three numbers, if they name one. -/
def of? (year : Int) (month day : Nat) : Option Date :=
  if h : IsDate year month day then some ⟨year, month, day, h⟩ else none

/-- The first day of 1970. -/
def epoch : Date :=
  ⟨1970, 1, 1, by decide⟩

/-- The day after. -/
def succ? (d : Date) : Option Date :=
  (of? d.year d.month (d.day + 1)).or ((of? d.year (d.month + 1) 1).or (of? (d.year + 1) 1 1))

/-- The day before. -/
def pred? (d : Date) : Option Date :=
  (of? d.year d.month (d.day - 1)).or
    ((of? d.year (d.month - 1) (daysInMonth d.year (d.month - 1))).or (of? (d.year - 1) 12 31))

/-- The date a number of days later, if the calendar reaches so far. -/
def after? (d : Date) : Nat → Option Date
  | 0 => some d
  | n + 1 => (d.after? n).bind succ?

theorem of?_eq_some_iff {year : Int} {month day : Nat} {d : Date} :
    of? year month day = some d ↔ d.year = year ∧ d.month = month ∧ d.day = day := by
  unfold of?
  split
  · next h =>
    constructor
    · rintro ⟨⟩
      exact ⟨rfl, rfl, rfl⟩
    · rintro ⟨rfl, rfl, rfl⟩
      rfl
  · next h =>
    constructor
    · rintro ⟨⟩
    · rintro ⟨rfl, rfl, rfl⟩
      exact absurd d.isDate h

end Date

/-! ## Times -/

/-- A point in time. -/
structure Time where
  date : Date
  hour : Fin 24
  minute : Fin 60
  second : Fin 61
  nano : Fin 1000000000
  deriving DecidableEq

namespace Time

/-- The time whose clock in a zone shows the given date and time, where the clock of the zone is
ahead by a number of minutes, less than a day either way. -/
def ofLocal? (date : Date) (hour : Fin 24) (minute : Fin 60) (second : Fin 61)
    (nano : Fin 1000000000) (ahead : Int) : Option Time := do
  let total : Int := 60 * hour.val + minute.val - ahead
  let date ← if total < 0 then date.pred? else if 1440 ≤ total then date.succ? else some date
  let ofDay := (total % 1440).toNat
  return ⟨date, Fin.ofNat 24 (ofDay / 60), Fin.ofNat 60 (ofDay % 60), second, nano⟩

/-- The time a number of nanoseconds after the start of 1970, leap seconds not counted. -/
def ofUnixNanos? (nanos : Nat) : Option Time := do
  let seconds := nanos / 1000000000
  let date ← Date.epoch.after? (seconds / 86400)
  let ofDay := seconds % 86400
  return ⟨date, Fin.ofNat 24 (ofDay / 3600), Fin.ofNat 60 (ofDay / 60), Fin.ofNat 61 (ofDay % 60),
    Fin.ofNat 1000000000 nanos⟩

/-- The time of a date at which a clock shows whole seconds. -/
def ofClock (date : Date) (hour minute second : Nat) : Time :=
  ⟨date, Fin.ofNat 24 hour, Fin.ofNat 60 minute, Fin.ofNat 61 second, Fin.ofNat 1000000000 0⟩

/-- The start of 1970. -/
def epoch : Time :=
  ⟨.epoch, 0, 0, 0, 0⟩

/-- In a zone whose clock is not ahead, the clock shows the time itself. -/
theorem ofLocal?_zero (t : Time) :
    ofLocal? t.date t.hour t.minute t.second t.nano 0 = some t := by
  obtain ⟨date, hour, minute, second, nano⟩ := t
  have hh := hour.isLt
  have hm := minute.isLt
  have h0 : ¬(60 * (hour.val : Int) + minute.val - 0 < 0) := by omega
  have h1 : ¬(1440 ≤ 60 * (hour.val : Int) + minute.val - 0) := by omega
  have h2 : ((60 * (hour.val : Int) + minute.val - 0) % 1440).toNat =
      60 * hour.val + minute.val := by omega
  have h3 : Fin.ofNat 24 ((60 * hour.val + minute.val) / 60) = hour := by
    apply Fin.ext
    simp only [Fin.ofNat]
    omega
  have h4 : Fin.ofNat 60 ((60 * hour.val + minute.val) % 60) = minute := by
    apply Fin.ext
    simp only [Fin.ofNat]
    omega
  simp only [ofLocal?, if_neg h0, if_neg h1, h2, h3, h4]
  rfl

end Time
end SysReg
