import Telemetry.Time.Date

/-!
# Instants

A point of universal time to the nanosecond: a date, a second of the day, and
the nanoseconds within that second. A leap second is the 59th second of its
minute continued, with nanoseconds of a thousand million and more.

* `Instant.shift?`: from a local reading to universal time;
* `Instant.elapsed`: the signed time from one instant to another, in
  nanoseconds. Between instants in different seconds, a leap second counts as a
  second of its own when the time runs across it (`Instant.elapsed_eq`).
-/

namespace Telemetry

/-- The seconds of a day. -/
def daySeconds : Nat := 86400

/-- The nanoseconds of a second. -/
def secondNanos : Nat := 1000000000

/-- Whether a second of the day and nanoseconds name a time of day: beyond the
nanoseconds of one second only within a leap second. -/
def IsTime (second nano : Nat) : Prop :=
  second < daySeconds ∧ nano < 2 * secondNanos ∧ (secondNanos ≤ nano → second % 60 = 59)

instance (second nano : Nat) : Decidable (IsTime second nano) :=
  inferInstanceAs (Decidable (_ ∧ _ ∧ (_ → _)))

/-- A point of universal time. -/
structure Instant where
  date : Date
  second : Nat
  nano : Nat
  isTime : IsTime second nano
  deriving DecidableEq

namespace Instant

/-- Midnight at the beginning of 1970. -/
def epoch : Instant := ⟨.epoch, 0, 0, by decide⟩

instance : Inhabited Instant := ⟨epoch⟩

/-- The instant with the given parts, if there is one. -/
def ofParts? (date : Date) (second nano : Nat) : Option Instant :=
  if h : IsTime second nano then some ⟨date, second, nano, h⟩ else none

/-- The instant at which a clock that is `offset` seconds ahead of universal
time shows this date and time; `offset` is less than a day either way. -/
def shift? (date : Date) (second nano : Nat) (offset : Int) : Option Instant := do
  let s : Int := second - offset
  if s < 0 then ofParts? (← date.previous?) (s + daySeconds).toNat nano
  else if (daySeconds : Int) ≤ s then ofParts? (← date.next?) (s - daySeconds).toNat nano
  else ofParts? date s.toNat nano

/-- Whether the instant lies in a leap second. -/
def inLeapSecond (t : Instant) : Bool :=
  secondNanos ≤ t.nano

/-- The second by which a leap second lengthens or shortens the time between
two seconds of the day. -/
def leapAdjustment (start finish : Instant) : Int :=
  if start.second < finish.second then (if start.inLeapSecond then 1 else 0)
  else if finish.second < start.second then (if finish.inLeapSecond then -1 else 0)
  else 0

/-- The time from `start` to `finish` in nanoseconds, negative if `finish` is
the earlier one. -/
def elapsed (start finish : Instant) : Int :=
  (daySeconds * (finish.date.dayNumber - start.date.dayNumber) +
      ((finish.second : Int) - start.second) + leapAdjustment start finish) * secondNanos +
    ((finish.nano : Int) - start.nano)

/-- The nanoseconds of an instant, counted from a fixed day, where every minute has sixty
seconds and a leap second is its last one continued. -/
def total (t : Instant) : Int :=
  (daySeconds * t.date.dayNumber + t.second) * secondNanos + t.nano

/-- The time between two instants is the difference of their nanoseconds, but for a leap second
that it runs across. -/
theorem elapsed_eq (start finish : Instant) :
    start.elapsed finish =
      finish.total - start.total + leapAdjustment start finish * secondNanos := by
  rw [elapsed, total, total, Int.mul_sub]
  generalize (daySeconds : Int) * finish.date.dayNumber = days'
  generalize (daySeconds : Int) * start.date.dayNumber = days
  rw [secondNanos]
  omega

end Instant

end Telemetry
