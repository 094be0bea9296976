import HostDispatch.Time.Calendar

/-!
# Zone rules

A zone rule gives the offset from UTC of every instant by a yearly pattern: a standard offset, and
optionally a daylight offset with the two yearly switches between them. It is written the POSIX
way, as in `CET-1CEST,M3.5.0,M10.5.0/3`: a name and an offset counted west of UTC for each clock,
then the two switches. A switch falls on a day of the year (`Jn` counts from 1 and never counts
29 February, `n` counts from 0 and does) or on the `w`-th weekday `d` of month `m` (`Mm.w.d`, week
5 being the last), at a local clock time that may lie below zero or past 24 hours (02:00 when
none is given).

`ZoneRule.offsetAt` reads the rule of the UTC year of the instant. Both switches are placed in
that year in UTC seconds, the start switch read on the standard clock and the end switch on the
daylight clock; when the end falls before the start (a southern summer), daylight time is the part
of the year outside the two switches.
-/

namespace HostDispatch

open Calendar

/-- The day of a yearly switch. -/
inductive SwitchDay where
  /-- Day `n` of the year counting from 1, where 29 February is never counted. -/
  | julian (n : Nat)
  /-- Day `n` of the year counting from 0, where 29 February is counted. -/
  | ordinal (n : Nat)
  /-- The `week`-th `weekday` (Sunday is 0) of a month; week 5 is the last. -/
  | weekday (month week weekday : Nat)
deriving Repr, Inhabited, DecidableEq

/-- A yearly switch between standard and daylight time: its day and its local clock time in
seconds. -/
structure Switch where
  day : SwitchDay
  clock : Int
deriving Repr, Inhabited, DecidableEq

/-- A zone rule: the standard offset (seconds east of UTC) and, when daylight time is kept, its
offset with the switch into it and the switch out of it. -/
structure ZoneRule where
  standard : Int
  daylight : Option (Int × Switch × Switch) := none
deriving Repr, Inhabited, DecidableEq

namespace Switch

/-- Days from the start of a year to the day of a switch. -/
def dayInYear (d : SwitchDay) (year : Int) : Int :=
  match d with
  | .julian n => (n : Int) - 1 + (if isLeap year && n ≥ 60 then 1 else 0)
  | .ordinal n => n
  | .weekday m w wd =>
    let first := daysFromCivil year m 1
    let d0 := (((wd : Int) - (Calendar.weekday first : Int)) % 7).toNat
    let limit := daysIn year m
    let d := (List.range (w - 1)).foldl (fun d _ => if d + 7 ≥ limit then d else d + 7) d0
    first - daysFromCivil year 1 1 + d

/-- Seconds from the start of a year (UTC) to the switch, when the local clock runs at `offset`. -/
def secondsInYear (sw : Switch) (year : Int) (offset : Int) : Int :=
  dayInYear sw.day year * secondsPerDay + sw.clock - offset

end Switch

namespace ZoneRule

/-- The offset in force at an instant given in Unix seconds. -/
def offsetAt (r : ZoneRule) (unix : Int) : Int :=
  match r.daylight with
  | none => r.standard
  | some (dst, start, stop) =>
    let year := (civilFromDays (unix / secondsPerDay)).year
    let ysec := unix - daysFromCivil year 1 1 * secondsPerDay
    let startSec := start.secondsInYear year r.standard
    let endSec := stop.secondsInYear year dst
    if endSec < startSec then
      (if ysec < endSec then dst else if ysec ≥ startSec then dst else r.standard)
    else
      (if ysec < startSec then r.standard else if ysec ≥ endSec then r.standard else dst)

/-! ## The written form -/

/-- A number of at least one digit between `lo` and `hi`, and the rest. -/
def takeNumber (lo hi : Nat) (cs : List Char) : Option (Nat × List Char) :=
  let ds := cs.takeWhile Char.isDigit
  let v := ds.foldl (fun n c => n * 10 + (c.toNat - 48)) 0
  if ds.isEmpty || v < lo || v > hi then none else some (v, cs.dropWhile Char.isDigit)

/-- A signed clock `[+-]hh[:mm[:ss]]` in seconds (hours up to a week), and the rest. -/
def takeClock (cs : List Char) : Option (Int × List Char) := do
  let (neg, cs) := match cs with
    | '-' :: r => (true, r)
    | '+' :: r => (false, r)
    | r => (false, r)
  let (h, cs) ← takeNumber 0 (24 * 7) cs
  let (m, cs) ← match cs with
    | ':' :: r => takeNumber 0 59 r
    | r => some (0, r)
  let (s, cs) ← match cs with
    | ':' :: r => takeNumber 0 59 r
    | r => some (0, r)
  let v : Int := (h * 3600 + m * 60 + s : Nat)
  pure (if neg then -v else v, cs)

/-- A clock name, in angle brackets or of at least three characters before the first digit,
comma or sign, and the rest. -/
def takeName (cs : List Char) : Option (List Char) :=
  match cs with
  | [] => none
  | '<' :: r =>
    match r.dropWhile (· ≠ '>') with
    | '>' :: rest => some rest
    | _ => none
  | r =>
    let name := r.takeWhile fun c => !(c.isDigit || c = ',' || c = '-' || c = '+')
    if name.length < 3 then none else some (r.drop name.length)

/-- A dot, and the rest. -/
def takeDot (cs : List Char) : Option (List Char) :=
  match cs with
  | '.' :: r => some r
  | _ => none

/-- A switch `Jn`, `n` or `Mm.w.d`, with an optional `/clock`, and the rest. -/
def takeSwitch (cs : List Char) : Option (Switch × List Char) := do
  let (day, cs) ← match cs with
    | 'J' :: r => (takeNumber 1 365 r).map fun (n, r) => (SwitchDay.julian n, r)
    | 'M' :: r => do
      let (m, r) ← takeNumber 1 12 r
      let (w, r) ← takeNumber 1 5 (← takeDot r)
      let (d, r) ← takeNumber 0 6 (← takeDot r)
      pure (SwitchDay.weekday m w d, r)
    | r => (takeNumber 0 365 r).map fun (n, r) => (SwitchDay.ordinal n, r)
  match cs with
  | '/' :: r =>
    let (t, r) ← takeClock r
    pure (⟨day, t⟩, r)
  | r => pure (⟨day, 7200⟩, r)

/-- A zone rule from its written form; offsets in the text count west of UTC. Daylight time
without an offset is an hour ahead of standard time, and without switches it runs from the second
Sunday of March to the first Sunday of November. -/
def parse (s : String) : Option ZoneRule := do
  let cs ← takeName s.toList
  let (std, cs) ← takeClock cs
  match cs with
  | [] => pure { standard := -std }
  | ',' :: _ => pure { standard := -std }
  | cs =>
    let cs ← takeName cs
    let (dst, cs) ← match cs with
      | [] => some (-std + 3600, cs)
      | ',' :: _ => some (-std + 3600, cs)
      | r => (takeClock r).map fun (o, r) => (-o, r)
    let cs := if cs.isEmpty then ",M3.2.0,M11.1.0".toList else cs
    let cs ← match cs with
      | ',' :: r => some r
      | ';' :: r => some r
      | _ => none
    let (start, cs) ← takeSwitch cs
    let cs ← match cs with
      | ',' :: r => some r
      | _ => none
    let (stop, cs) ← takeSwitch cs
    if cs.isEmpty then pure { standard := -std, daylight := some (dst, start, stop) } else none

end ZoneRule

end HostDispatch
