import HostDispatch.Time.Zone.Table
import HostDispatch.Time.Duration
import HostDispatch.Time.Basic
import HostDispatch.Text.Space
import HostDispatch.Text.Case
import HostDispatch.Text.Integer

/-!
# Cron schedules

A cron expression names the seconds, minutes, hours, days of the month, months and days of the
week at which a schedule fires. Each field is a comma-separated list of ranges; a range is `*` (or
`?`), a number, a name (`jan`, `mon`, in any case) or `low-high`, optionally followed by `/step`. A
single start with a step (`5/15`) runs to the end of the field. Five fields leave the seconds at
`0`; six give them first. A leading `TZ=zone ` or `CRON_TZ=zone ` reads the schedule in that zone;
the zone `Local` reads it in the zone of the time asked about, as no prefix does.

The descriptors `@yearly` (`@annually`), `@monthly`, `@weekly`, `@daily` (`@midnight`) and
`@hourly` stand for fixed expressions; `@every d` fires every duration `d`, rounded down to whole
seconds and at least one second.

A field's value is a set of numbers, kept as the bits of a natural number. Bit 63 marks a field
written as a star with step one: the day of the month and the day of the week combine with "and"
when one of them is so starred, and with "or" otherwise.
-/

namespace HostDispatch

namespace Cron

/-- The range of a field and the names its numbers may go by. -/
structure Bounds where
  min : Nat
  max : Nat
  names : List (String × Nat) := []

/-- Seconds, 0 to 59. -/
def seconds : Bounds := { min := 0, max := 59 }

/-- Minutes, 0 to 59. -/
def minutes : Bounds := { min := 0, max := 59 }

/-- Hours, 0 to 23. -/
def hours : Bounds := { min := 0, max := 23 }

/-- Days of the month, 1 to 31. -/
def daysOfMonth : Bounds := { min := 1, max := 31 }

/-- Months, 1 to 12, with their three-letter names. -/
def months : Bounds :=
  { min := 1, max := 12,
    names := [("jan", 1), ("feb", 2), ("mar", 3), ("apr", 4), ("may", 5), ("jun", 6),
              ("jul", 7), ("aug", 8), ("sep", 9), ("oct", 10), ("nov", 11), ("dec", 12)] }

/-- Days of the week, 0 (Sunday) to 6, with their three-letter names. -/
def daysOfWeek : Bounds :=
  { min := 0, max := 6,
    names := [("sun", 0), ("mon", 1), ("tue", 2), ("wed", 3), ("thu", 4), ("fri", 5),
              ("sat", 6)] }

/-- The bit that marks a field written as a star with step one. -/
def starBit : Nat := Nat.pow 2 63

/-- The numbers `lo`, `lo + step`, … up to `hi`, as bits. -/
def bitsOf (lo hi step : Nat) : Nat :=
  ((List.range (hi + 1 - lo)).filter (· % step == 0)).foldl (fun acc i => acc ||| Nat.pow 2 (lo + i)) 0

/-- Every number of a field, marked as a star. -/
def all (b : Bounds) : Nat := bitsOf b.min b.max 1 ||| starBit

/-- Whether a set of bits holds a number. -/
def holds (bits n : Nat) : Bool := bits.testBit n

/-- A schedule of calendar fields. -/
structure Spec where
  second : Nat
  minute : Nat
  hour : Nat
  dom : Nat
  month : Nat
  dow : Nat
  /-- The zone the fields are read in; `none` reads them in the zone of the time asked about. -/
  zone : Option Zone := none

/-- A schedule: calendar fields, or a constant delay in nanoseconds. -/
inductive Schedule where
  | spec (s : Spec)
  | every (delay : Int)

instance : Inhabited Schedule := ⟨.every 0⟩

/-- A number of a field: a non-negative decimal. -/
def number (expr : String) : Except String Nat :=
  match Integer.read expr with
  | .error f =>
    .error ("failed to parse int from " ++ expr ++ ": " ++ Integer.message "Atoi" expr f)
  | .ok n =>
    if n < 0 then .error ("negative number (" ++ toString n ++ ") not allowed: " ++ expr)
    else .ok n.toNat

/-- A number of a field, or one of its names in any case. -/
def numberOrName (expr : String) (b : Bounds) : Except String Nat :=
  match b.names.lookup (Text.lowerWord expr) with
  | some n => .ok n
  | none => number expr

/-- The bits of one range of a field. -/
def range (expr : String) (b : Bounds) : Except String Nat := do
  let rangeAndStep := expr.splitOn "/"
  let first := rangeAndStep.headD ""
  let lowAndHigh := first.splitOn "-"
  let single := lowAndHigh.length == 1
  let low := lowAndHigh.headD ""
  let (start, stop, star) ← if low = "*" || low = "?" then pure (b.min, b.max, true)
    else do
      let start ← numberOrName low b
      match lowAndHigh with
      | [_] => pure (start, start, false)
      | [_, high] => pure (start, ← numberOrName high b, false)
      | _ => throw ("too many hyphens: " ++ expr)
  let (stop, step, star) ← match rangeAndStep with
    | [_] => pure (stop, 1, star)
    | [_, stepText] => do
      let step ← number stepText
      pure (if single then b.max else stop, step, star && step ≤ 1)
    | _ => throw ("too many slashes: " ++ expr)
  if start < b.min then
    throw ("beginning of range (" ++ toString start ++ ") below minimum (" ++ toString b.min ++
      "): " ++ expr)
  if stop > b.max then
    throw ("end of range (" ++ toString stop ++ ") above maximum (" ++ toString b.max ++ "): " ++
      expr)
  if start > stop then
    throw ("beginning of range (" ++ toString start ++ ") beyond end of range (" ++ toString stop ++
      "): " ++ expr)
  if step = 0 then throw ("step of range should be a positive number: " ++ expr)
  pure (bitsOf start stop step ||| (if star then starBit else 0))

/-- The bits of a field: the union of its comma-separated ranges (empty pieces are skipped). -/
def field (text : String) (b : Bounds) : Except String Nat :=
  ((text.splitOn ",").filter (· ≠ "")).foldlM (fun acc r => do pure (acc ||| (← range r b))) 0

/-- The fields as written, as a list of words is printed: `[a b c]`. -/
def wordsText (ws : List String) : String := "[" ++ " ".intercalate ws ++ "]"

/-- The six fields of an expression: five gain a leading `0` for the seconds. -/
def sixFields (ws : List String) : Except String (List String) :=
  if ws.length < 5 || ws.length > 6 then
    .error ("expected 5 to 6 fields, found " ++ toString ws.length ++ ": " ++ wordsText ws)
  else if ws.length = 5 then .ok ("0" :: ws) else .ok ws

/-- The schedule of a descriptor. -/
def descriptor (d : String) (zone : Option Zone) : Except String Schedule :=
  let fixed (second minute hour dom month dow : Nat) : Except String Schedule :=
    .ok (.spec { second := second, minute := minute, hour := hour, dom := dom, month := month,
                 dow := dow, zone := zone })
  let one (b : Bounds) : Nat := Nat.pow 2 b.min
  if d = "@yearly" || d = "@annually" then
    fixed (one seconds) (one minutes) (one hours) (one daysOfMonth) (one months) (all daysOfWeek)
  else if d = "@monthly" then
    fixed (one seconds) (one minutes) (one hours) (one daysOfMonth) (all months) (all daysOfWeek)
  else if d = "@weekly" then
    fixed (one seconds) (one minutes) (one hours) (all daysOfMonth) (all months) (one daysOfWeek)
  else if d = "@daily" || d = "@midnight" then
    fixed (one seconds) (one minutes) (one hours) (all daysOfMonth) (all months) (all daysOfWeek)
  else if d = "@hourly" then
    fixed (one seconds) (one minutes) (all hours) (all daysOfMonth) (all months) (all daysOfWeek)
  else if d.startsWith "@every " then
    match Duration.parse (d.drop 7).toString with
    | .error e => .error ("failed to parse duration " ++ d ++ ": " ++ e)
    | .ok dur =>
      let dur := max dur Time.nanosPerSecond
      .ok (.every (dur - dur % Time.nanosPerSecond))
  else .error ("unrecognized descriptor: " ++ d)

/-- Why an expression is not a schedule: it is invalid, or its zone prefix has no space after it,
which cuts the text at a negative position and aborts the reading. -/
inductive Fault where
  | invalid (message : String)
  | crash (message : String)

/-- Split off a zone prefix: the zone name runs from the first `=` to the first space. -/
def zonePrefix (spec : String) : Except Fault (Option Zone × String) :=
  if spec.startsWith "TZ=" || spec.startsWith "CRON_TZ=" then
    let cs := spec.toList
    let eq := cs.findIdx (· = '=')
    let sp := cs.findIdx (· = ' ')
    if sp = cs.length then .error (.crash "runtime error: slice bounds out of range [:-1]")
    else
      let name := String.ofList ((cs.take sp).drop (eq + 1))
      match Zone.load name with
      | .error e => .error (.invalid ("provided bad location " ++ name ++ ": " ++ e))
      | .ok z =>
        .ok (if name = "Local" then none else some z, Text.trim (String.ofList (cs.drop sp)))
  else .ok (none, spec)

/-- Read the fields or descriptor that follow any zone prefix. -/
def body (zone : Option Zone) (spec : String) : Except String Schedule := do
  if spec.startsWith "@" then descriptor spec zone
  else
    let fs ← sixFields (Text.fields spec)
    match fs with
    | [s, mi, h, dom, mo, dow] =>
      let s ← field s seconds
      let mi ← field mi minutes
      let h ← field h hours
      let dom ← field dom daysOfMonth
      let mo ← field mo months
      let dow ← field dow daysOfWeek
      pure (.spec { second := s, minute := mi, hour := h, dom := dom, month := mo, dow := dow,
                    zone := zone })
    | _ => throw ("expected 5 to 6 fields, found " ++ toString fs.length ++ ": " ++ wordsText fs)

/-- Read a schedule. -/
def parse (spec : String) : Except Fault Schedule :=
  if spec = "" then .error (.invalid "empty spec string")
  else
    match zonePrefix spec with
    | .error f => .error f
    | .ok (zone, rest) => (body zone rest).mapError .invalid

end Cron

end HostDispatch
