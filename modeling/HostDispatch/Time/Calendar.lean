/-!
# The proleptic Gregorian calendar

Days are counted from 1970-01-01, which is day 0, in both directions. `daysFromCivil` and
`civilFromDays` convert between day numbers and (year, month, day) with the 400-year cycle of
146097 days; months and days out of range roll over into the next month and year, as a calendar
date built from loose fields does. Weekdays count from Sunday, which is 0.
-/

namespace HostDispatch

namespace Calendar

/-- Seconds in a day. -/
def secondsPerDay : Int := 86400

/-- Whether a year has a 29th of February. -/
def isLeap (y : Int) : Bool := y % 4 = 0 && (y % 100 ≠ 0 || y % 400 = 0)

/-- Days in a month (1 to 12) of a year. -/
def daysIn (y : Int) (m : Nat) : Nat :=
  if m = 2 then (if isLeap y then 29 else 28)
  else if m = 4 || m = 6 || m = 9 || m = 11 then 30
  else 31

/-- The day number of a date whose month is 1 to 12; a day past the month's end counts on. -/
def daysFromCivil (y : Int) (m : Nat) (d : Int) : Int :=
  let y' := if m ≤ 2 then y - 1 else y
  let era := y' / 400
  let yoe := y' - era * 400
  let mp : Int := if m > 2 then (m : Int) - 3 else (m : Int) + 9
  let doy := (153 * mp + 2) / 5 + d - 1
  let doe := yoe * 365 + yoe / 4 - yoe / 100 + doy
  era * 146097 + doe - 719468

/-- A calendar date. -/
structure Date where
  year : Int
  month : Nat
  day : Nat
deriving DecidableEq, Repr, Inhabited

/-- The date of a day number. -/
def civilFromDays (z : Int) : Date :=
  let z' := z + 719468
  let era := z' / 146097
  let doe := z' - era * 146097
  let yoe := (doe - doe / 1460 + doe / 36524 - doe / 146096) / 365
  let doy := doe - (365 * yoe + yoe / 4 - yoe / 100)
  let mp := (5 * doy + 2) / 153
  let d := doy - (153 * mp + 2) / 5 + 1
  let m := if mp < 10 then mp + 3 else mp - 9
  { year := yoe + era * 400 + (if m ≤ 2 then 1 else 0), month := m.toNat, day := d.toNat }

/-- The weekday of a day number, Sunday being 0: day 0 was a Thursday. -/
def weekday (z : Int) : Nat := ((z + 4) % 7).toNat

/-- The day number of a date built from loose fields: the month may lie outside 1 to 12 and the
day outside the month, and both carry into the larger fields. -/
def daysOfFields (y : Int) (m : Int) (d : Int) : Int :=
  let m0 := m - 1
  let y' := y + m0 / 12
  let m' := (m0 % 12 + 1).toNat
  daysFromCivil y' m' 1 + (d - 1)

/-- Wall-clock fields of a moment read in some offset. -/
structure Fields where
  year : Int
  month : Nat
  day : Nat
  hour : Nat
  minute : Nat
  second : Nat
  nanos : Nat
  weekday : Nat
  yearDay : Nat
deriving Repr, Inhabited

/-- The fields of a count of local nanoseconds since 1970-01-01T00:00:00. -/
def fieldsOfLocal (localNanos : Int) : Fields :=
  let secs := localNanos / 1000000000
  let nanos := (localNanos % 1000000000).toNat
  let days := secs / secondsPerDay
  let daySec := (secs % secondsPerDay).toNat
  let date := civilFromDays days
  { year := date.year, month := date.month, day := date.day,
    hour := daySec / 3600, minute := daySec / 60 % 60, second := daySec % 60, nanos := nanos,
    weekday := weekday days,
    yearDay := (days - daysFromCivil date.year 1 1).toNat + 1 }

/-- Local seconds since 1970-01-01T00:00:00 of loose wall-clock fields; every field may be out of
range and carries into the larger ones. -/
def localSeconds (y : Int) (m : Int) (d : Int) (h : Int) (mi : Int) (s : Int) : Int :=
  daysOfFields y m d * secondsPerDay + h * 3600 + mi * 60 + s

end Calendar

end HostDispatch
