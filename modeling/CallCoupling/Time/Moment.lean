import CallCoupling.Number.Decimal
import CallCoupling.Number.Integer

/-!
# Moments

A moment is counted in seconds from the start of 1970, in universal time.  Its date is read off the
number of days, in cycles of 400 years that each have 146097 days; a year is taken to begin in March,
so that the day that some years lack comes last.  The calendar covers as many seconds as a word of 64 bits
can count; a moment before its first is read as one past its last.
-/

set_option autoImplicit false

namespace CallCoupling

/-- A point in time, in seconds. -/
structure Moment where
  seconds : Int
deriving DecidableEq, Repr, Inhabited

/-- A day of the calendar. -/
structure Date where
  year : Int
  month : Nat
  day : Nat
deriving DecidableEq, Repr, Inhabited

namespace Date

/-- The date of a day, counted from the start of 1970. -/
def ofDays (days : Int) : Date :=
  let z := days + 719468
  let cycle := z.fdiv 146097
  let d := (z - cycle * 146097).toNat
  let y := (d - d / 1460 + d / 36524 - d / 146096) / 365
  let dayOfYear := d - (365 * y + y / 4 - y / 100)
  let m := (5 * dayOfYear + 2) / 153
  let month := if m < 10 then m + 3 else m - 9
  { year := y + cycle * 400 + (if month ≤ 2 then 1 else 0)
    month
    day := dayOfYear - (153 * m + 2) / 5 + 1 }

/-- Digits filled up with zeros. -/
def fixed (width n : Nat) : String := String.ofList (Layout.padded width n)

/-- Year, month and day. -/
def text (d : Date) : String :=
  (if d.year < 0 then "-" else "") ++ fixed 4 d.year.natAbs ++ "-" ++ fixed 2 d.month ++ "-" ++
    fixed 2 d.day

end Date

namespace Moment

/-- The number of seconds in a day. -/
def day : Nat := 86400

/-- The number of seconds that the calendar covers. -/
def span : Int := 18446744073709551616

/-- The first moment of the calendar: the start of March of the year -292277022400. -/
def first : Int := -9223372028741760000

/-- The seconds of a moment, brought into the calendar. -/
def reading (t : Moment) : Int := if t.seconds < first then t.seconds + span else t.seconds

/-- The date of a moment. -/
def date (t : Moment) : Date := .ofDays (t.reading.fdiv day)

/-- Hours, minutes and seconds. -/
def clock (t : Moment) : String :=
  let s := (t.reading.fmod day).toNat
  Date.fixed 2 (s / 3600) ++ ":" ++ Date.fixed 2 (s / 60 % 60) ++ ":" ++ Date.fixed 2 (s % 60)

/-- The form for exchange. -/
def stamp (t : Moment) : String := t.date.text ++ "T" ++ t.clock ++ "Z"

/-- The form for readers. -/
def text (t : Moment) : String := t.date.text ++ " " ++ t.clock ++ " +0000 UTC"

end Moment

end CallCoupling
