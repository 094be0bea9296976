import HostDispatch.Cron.Schedule

/-!
# The next activation of a cron schedule

`Schedule.next s t` is the first instant after `t` at which `s` fires, read in the zone of `t`, or
the zero time when there is none within five years.

A calendar schedule starts at the next whole second and corrects one field at a time, from the
month down to the second. A field that does not match moves forward by its own unit; the first move
of any field resets the smaller fields to their least values. When a field wraps around (the month
to January, the day to the first, the hour, minute or second to zero), the search begins again at
the month. Days move by calendar date: a day whose midnight falls on an hour other than zero because
of a clock change is put back on midnight's side of that change.

A constant-delay schedule fires the delay after `t`, counted from the start of `t`'s second.
-/

namespace HostDispatch

namespace Cron

/-- Nanoseconds in an hour. -/
def nanosPerHour : Int := 3600 * Time.nanosPerSecond

/-- Nanoseconds in a minute. -/
def nanosPerMinute : Int := 60 * Time.nanosPerSecond

/-- Where the correction of one field leaves the search: back at the month with a new time, or on
to the next field. -/
inductive Turn where
  | wrap (t : Time)
  | onward (t : Time) (added : Bool)

/-- The nanoseconds of `t` within its second. -/
def subsecond (t : Time) : Int := t.ns % Time.nanosPerSecond

/-- The time with the same wall clock `n` months or days later, in its own zone. -/
def shiftDate (t : Time) (months days : Int) : Time :=
  let f := t.fields
  Time.ofLocal t.zone f.year (f.month + months) (f.day + days) f.hour f.minute f.second f.nanos

/-- The start of the minute or second holding `t`, on the absolute time line. -/
def truncate (t : Time) (unit : Int) : Time := { t with ns := t.ns - t.ns % unit }

/-- Whether a day matches: both day fields when either is a star, else either. -/
def Spec.dayMatches (s : Spec) (t : Time) : Bool :=
  let f := t.fields
  let domMatch := holds s.dom f.day
  let dowMatch := holds s.dow f.weekday
  if holds s.dom 63 || holds s.dow 63 then domMatch && dowMatch else domMatch || dowMatch

/-- Move month by month to a matching month. -/
def Spec.months (s : Spec) : Nat → Time → Bool → Turn
  | 0, t, added => .onward t added
  | n + 1, t, added =>
    let f := t.fields
    if holds s.month f.month then .onward t added
    else
      let t := if added then t else Time.ofLocal t.zone f.year f.month 1 0 0 0 0
      let t := shiftDate t 1 0
      if t.fields.month = 1 then .wrap t else s.months n t true

/-- Move day by day to a matching day. -/
def Spec.days (s : Spec) : Nat → Time → Bool → Turn
  | 0, t, added => .onward t added
  | n + 1, t, added =>
    if s.dayMatches t then .onward t added
    else
      let f := t.fields
      let t := if added then t else Time.ofLocal t.zone f.year f.month f.day 0 0 0 0
      let t := shiftDate t 0 1
      let h : Int := t.fields.hour
      let t := if h = 0 then t
        else if h > 12 then t.add ((24 - h) * nanosPerHour) else t.add (-h * nanosPerHour)
      if t.fields.day = 1 then .wrap t else s.days n t true

/-- Move hour by hour to a matching hour. -/
def Spec.hours (s : Spec) : Nat → Time → Bool → Turn
  | 0, t, added => .onward t added
  | n + 1, t, added =>
    let f := t.fields
    if holds s.hour f.hour then .onward t added
    else
      let t := if added then t else Time.ofLocal t.zone f.year f.month f.day f.hour 0 0 0
      let t := t.add nanosPerHour
      if t.fields.hour = 0 then .wrap t else s.hours n t true

/-- Move minute by minute to a matching minute. -/
def Spec.minutes (s : Spec) : Nat → Time → Bool → Turn
  | 0, t, added => .onward t added
  | n + 1, t, added =>
    if holds s.minute t.fields.minute then .onward t added
    else
      let t := if added then t else truncate t nanosPerMinute
      let t := t.add nanosPerMinute
      if t.fields.minute = 0 then .wrap t else s.minutes n t true

/-- Move second by second to a matching second. -/
def Spec.seconds (s : Spec) : Nat → Time → Bool → Turn
  | 0, t, added => .onward t added
  | n + 1, t, added =>
    if holds s.second t.fields.second then .onward t added
    else
      let t := if added then t else truncate t Time.nanosPerSecond
      let t := t.add Time.nanosPerSecond
      if t.fields.second = 0 then .wrap t else s.seconds n t true

/-- The steps a field may take before it matches or wraps: more than any field has values. -/
def fieldFuel : Nat := 100

/-- The search from the month down, begun again after each wrap, up to a year limit. -/
def Spec.search (s : Spec) (limit : Int) : Nat → Time → Bool → Option Time
  | 0, _, _ => none
  | n + 1, t, added =>
    if t.fields.year > limit then none
    else
      match s.months fieldFuel t added with
      | .wrap t => s.search limit n t true
      | .onward t added =>
      match s.days fieldFuel t added with
      | .wrap t => s.search limit n t true
      | .onward t added =>
      match s.hours fieldFuel t added with
      | .wrap t => s.search limit n t true
      | .onward t added =>
      match s.minutes fieldFuel t added with
      | .wrap t => s.search limit n t true
      | .onward t added =>
      match s.seconds fieldFuel t added with
      | .wrap t => s.search limit n t true
      | .onward t _ => some t

/-- The restarts a search may take: enough for every minute of the five years searched. -/
def searchFuel : Nat := 5000000

/-- The next activation of calendar fields after `t`, in `t`'s zone. -/
def Spec.next (s : Spec) (t : Time) : Time :=
  let start := match s.zone with
    | some z => t.inZone z
    | none => t
  let start := start.add (Time.nanosPerSecond - subsecond start)
  match s.search (start.fields.year + 5) searchFuel start false with
  | some found => found.inZone t.zone
  | none => Time.zero

/-- The next activation of a schedule after `t`. -/
def Schedule.next (sched : Schedule) (t : Time) : Time :=
  match sched with
  | .spec s => s.next t
  | .every delay => t.add (delay - subsecond t)

end Cron

end HostDispatch
