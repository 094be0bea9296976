import HostDispatch.Time.Zone

/-!
# Times

A time is an instant, counted in nanoseconds from 1970-01-01T00:00:00Z, read in a zone. Adding a
duration keeps the zone; comparing two times compares their instants only. The difference of two
times saturates at the bounds of a signed 64-bit count of nanoseconds.

Times are written in RFC 3339 form: the date and clock in the time's own zone, a fraction of a
second without trailing zeros (none when it is zero), and `Z` for a zero offset or `±hh:mm`.
-/

namespace HostDispatch

/-- A time: an instant in nanoseconds since the Unix epoch, and the zone it is read in. -/
structure Time where
  ns : Int
  zone : Zone
deriving Inhabited

namespace Time

/-- Nanoseconds in a second. -/
def nanosPerSecond : Int := 1000000000

/-- The largest signed 64-bit count. -/
def maxNanos : Int := 9223372036854775807

/-- The smallest signed 64-bit count. -/
def minNanos : Int := -9223372036854775808

/-- A count of nanoseconds clamped to the signed 64-bit range. -/
def saturate (n : Int) : Int := max minNanos (min maxNanos n)

/-- The Unix epoch, in UTC. -/
def epoch : Time := ⟨0, Zone.utc⟩

/-- The zero time, midnight of 1 January of year 1 UTC, which stands for "no time". -/
def zeroNanos : Int := -62135596800 * nanosPerSecond

/-- The zero time in UTC. -/
def zero : Time := ⟨zeroNanos, Zone.utc⟩

/-- Whether a time is the zero time, whatever its zone. -/
def isZero (t : Time) : Bool := t.ns = zeroNanos

/-- The time a duration (in nanoseconds) later, in the same zone. -/
def add (t : Time) (d : Int) : Time := { t with ns := t.ns + d }

/-- The nanoseconds from `b` to `a`, saturating at the 64-bit bounds. -/
def sub (a b : Time) : Int := saturate (a.ns - b.ns)

/-- Whether `a` is strictly later than `b`. -/
def after (a b : Time) : Bool := a.ns > b.ns

/-- Whether `a` is strictly earlier than `b`. -/
def before (a b : Time) : Bool := a.ns < b.ns

/-- The same instant read in another zone. -/
def inZone (t : Time) (z : Zone) : Time := { t with zone := z }

/-- Whole Unix seconds of the instant (rounded down). -/
def unixSeconds (t : Time) : Int := t.ns / nanosPerSecond

/-- The offset of the time's zone at its instant, in seconds. -/
def offset (t : Time) : Int := t.zone.offsetAt t.unixSeconds

/-- The wall-clock fields of the time in its zone. -/
def fields (t : Time) : Calendar.Fields := Calendar.fieldsOfLocal (t.ns + t.offset * nanosPerSecond)

/-- The time of a wall-clock reading in a zone; every field may be out of range and carries into
the larger ones, and skipped or repeated readings resolve as `Zone.instantOfLocal` says. -/
def ofLocal (z : Zone) (y m d h mi s : Int) (nanos : Int) : Time :=
  let secs := Calendar.localSeconds y m d h mi s + nanos / nanosPerSecond
  ⟨z.instantOfLocal secs * nanosPerSecond + nanos % nanosPerSecond, z⟩

/-- A number padded with zeros to a width. -/
def pad (width : Nat) (n : Nat) : String :=
  let s := toString n
  String.ofList (List.replicate (width - s.length) '0') ++ s

/-- A year as written: at least four digits, with a minus sign before years before year 0. -/
def yearText (y : Int) : String :=
  if y < 0 then "-" ++ pad 4 y.natAbs else pad 4 y.toNat

/-- The fraction of a second as written: a point and the digits without trailing zeros, or
nothing for a whole second. -/
def fractionText (nanos : Nat) : String :=
  if nanos = 0 then ""
  else
    let digits := (pad 9 nanos).toList.reverse.dropWhile (· = '0') |>.reverse
    "." ++ String.ofList digits

/-- The offset as written: `Z` for zero, else a sign, hours and minutes. -/
def offsetText (offset : Int) : String :=
  if offset = 0 then "Z"
  else
    let minutes := offset.natAbs / 60
    (if offset < 0 then "-" else "+") ++ pad 2 (minutes / 60) ++ ":" ++ pad 2 (minutes % 60)

/-- The date and clock part, without fraction or offset. -/
def clockText (f : Calendar.Fields) : String :=
  yearText f.year ++ "-" ++ pad 2 f.month ++ "-" ++ pad 2 f.day ++ "T" ++ pad 2 f.hour ++ ":" ++
    pad 2 f.minute ++ ":" ++ pad 2 f.second

/-- RFC 3339 text with as many fraction digits as needed. -/
def render (t : Time) : String :=
  let f := t.fields
  clockText f ++ fractionText f.nanos ++ offsetText t.offset

/-- RFC 3339 text to the second. -/
def renderSeconds (t : Time) : String :=
  clockText t.fields ++ offsetText t.offset

/-- Decimal digits as a number, when every character is a digit. -/
def digitsValue? (cs : List Char) : Option Nat :=
  if cs.all Char.isDigit then some (cs.foldl (fun n c => n * 10 + (c.toNat - 48)) 0) else none

/-- Nanoseconds of fraction digits: the first nine count, the rest are dropped. -/
def fractionNanos (ds : List Char) : Nat :=
  let kept := ds.take 9
  (digitsValue? kept).getD 0 * Nat.pow 10 (9 - kept.length)

/-- A field of one or two digits (exactly two when `fixed`), and the rest. -/
def takeField (fixed : Bool) (cs : List Char) : Option (Nat × List Char) :=
  match cs with
  | a :: b :: rest =>
    if !a.isDigit then none
    else if b.isDigit then some ((a.toNat - 48) * 10 + (b.toNat - 48), rest)
    else if fixed then none
    else some (a.toNat - 48, b :: rest)
  | [a] => if a.isDigit && !fixed then some (a.toNat - 48, []) else none
  | [] => none

/-- The rest after a given character. -/
def takeChar (c : Char) (cs : List Char) : Option (List Char) :=
  match cs with
  | d :: rest => if c = d then some rest else none
  | [] => none

/-- A fraction of a second, `.` or `,` and at least one digit, as nanoseconds; none is zero. -/
def takeFraction (cs : List Char) : Nat × List Char :=
  match cs with
  | c :: d :: more =>
    if (c = '.' || c = ',') && d.isDigit then
      (fractionNanos (d :: more.takeWhile Char.isDigit), more.dropWhile Char.isDigit)
    else (0, cs)
  | _ => (0, cs)

/-- Read RFC 3339 text: a four-digit year, a two-digit month and day, an hour of one or two digits,
two-digit minutes and seconds, an optional fraction of any length after `.` or `,`, and `Z` or a
`±hh:mm` offset of at most 24 hours and 60 minutes. The month, hour, minute and second must be in
range and the day must exist in its month. A zero offset reads as UTC; any other as a fixed
zone. -/
def parse? (s : String) : Option Time := do
  let cs := s.toList
  let year ← if cs.length < 4 then none else digitsValue? (cs.take 4)
  let cs ← takeChar '-' (cs.drop 4)
  let (month, cs) ← takeField true cs
  if month < 1 || month > 12 then none
  let cs ← takeChar '-' cs
  let (day, cs) ← takeField true cs
  let cs ← takeChar 'T' cs
  let (hour, cs) ← takeField false cs
  if hour ≥ 24 then none
  let cs ← takeChar ':' cs
  let (minute, cs) ← takeField true cs
  if minute ≥ 60 then none
  let cs ← takeChar ':' cs
  let (second, cs) ← takeField true cs
  if second ≥ 60 then none
  let (nanos, cs) := takeFraction cs
  let off : Int ← match cs with
    | ['Z'] => some 0
    | [sign, h1, h2, ':', m1, m2] => do
      let (oh, _) ← takeField true [h1, h2]
      let (om, _) ← takeField true [m1, m2]
      if oh > 24 || om > 60 then none
      let magnitude : Int := ((oh * 60 + om) * 60 : Nat)
      if sign = '+' then some magnitude else if sign = '-' then some (-magnitude) else none
    | _ => none
  if day < 1 || day > Calendar.daysIn year month then none
  let base := Calendar.localSeconds year month day hour minute second
  let zone := if off = 0 then Zone.utc else Zone.fixed off
  pure ⟨(base - off) * nanosPerSecond + nanos, zone⟩

end Time

end HostDispatch
