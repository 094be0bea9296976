import HostDispatch.Log.Level
import HostDispatch.Data.Json
import HostDispatch.Text.Decimal
import HostDispatch.Text.Quoted
import HostDispatch.Time.Basic

/-!
# Log records and lines

A log record has a severity, a message and named fields. A logger carries fields of its own that go
before those of each record, and a sink: the threshold and whether lines are JSON objects or
console text. A logger without a sink writes nothing.

A record is written as an object with `level`, `message` and its fields, a later field replacing an
earlier one of the same name. Durations are written in milliseconds, as decimal numbers, and times
in RFC 3339 to the second. A console line is the severity's three-letter tag, `>`, the message and
then `name=value` for every field in name order, except that `err` comes first; a text value with a
space, a quote, a backslash or a character outside printable ASCII is written quoted.

A limited logger passes at most five warnings or errors and drops the rest; lines below the
threshold do not count against it.
-/

namespace HostDispatch

namespace Log

/-- The value of a field. -/
inductive Value where
  | text (s : String)
  | int (n : Int)
  /-- A duration in nanoseconds, written in milliseconds. -/
  | duration (ns : Int)
  /-- A time, written to the second in its zone. -/
  | time (t : Time)
  | flag (b : Bool)
deriving Inhabited

namespace Value

/-- The number text of a duration in milliseconds. -/
def millisText (ns : Int) : String := Decimal.script (Float.ofInt ns / 1000000.0)

/-- The value in a JSON object. -/
def toJson : Value → Json
  | .text s => .str s
  | .int n => .int n
  | .duration ns => .num (millisText ns)
  | .time t => .str t.renderSeconds
  | .flag b => .bool b

/-- Whether console text must quote a text value. -/
def needsQuote (s : String) : Bool :=
  s.toList.any fun c => c.toNat < 0x21 || c.toNat > 0x7E || c = '\\' || c = '"'

/-- The value in a console line. -/
def consoleText : Value → String
  | .text s => if needsQuote s then Text.quote s else s
  | .int n => toString n
  | .duration ns => millisText ns
  | .time t =>
    let s := t.renderSeconds
    if needsQuote s then Text.quote s else s
  | .flag b => if b then "true" else "false"

end Value

/-- A field. -/
abbrev Field := String × Value

/-- A text field. -/
def text (k v : String) : Field := (k, .text v)

/-- The error field. -/
def err (message : String) : Field := ("err", .text message)

/-- Fields with a later one replacing an earlier one of the same name, in the place of the first. -/
def distinct (fs : List Field) : List Field :=
  fs.foldl (fun acc (k, v) =>
    if acc.any (·.1 == k) then acc.map (fun (k', v') => if k' == k then (k', v) else (k', v'))
    else acc ++ [(k, v)]) []

/-- A record to be written. -/
structure Record where
  severity : Severity
  message : String
  fields : List Field

namespace Record

/-- The record as a JSON object. -/
def toJson (r : Record) : Json :=
  let fs := distinct ((("level", Value.text r.severity.name) :: r.fields) ++
    [("message", Value.text r.message)])
  .obj (fs.map fun (k, v) => (k, v.toJson))

/-- Insert a name into a sorted list. -/
def insertName (k : String) : List String → List String
  | [] => [k]
  | x :: xs => if k < x then k :: x :: xs else x :: insertName k xs

/-- The names of the fields shown on a console line: sorted, `err` first. -/
def consoleNames (fs : List Field) : List String :=
  let names := (fs.map (·.1)).filter fun k =>
    k ≠ "level" && k ≠ "time" && k ≠ "message" && k ≠ "caller"
  let sorted := names.foldr insertName []
  if sorted.contains "err" then "err" :: sorted.filter (· ≠ "err") else sorted

/-- The record as a console line. -/
def consoleLine (r : Record) : String :=
  let fs := distinct r.fields
  let parts := (consoleNames fs).filterMap fun k =>
    (fs.lookup k).map fun v => k ++ "=" ++ v.consoleText
  " ".intercalate ([r.severity.tag, ">", r.message].filter (· ≠ "") ++ parts)

end Record

/-- Where a logger's lines go: the threshold level and the line format. -/
structure Sink where
  threshold : Int
  json : Bool
deriving Inhabited

/-- The sink of a configuration: a level name (info when unknown) and a format, JSON when it is
`json` in any case and trimmed, console text otherwise. -/
def Sink.ofConfig (level format : String) : Sink :=
  { threshold := Level.parse level Level.info, json := Text.lowerWord (Text.trim format) == "json" }

/-- A logger: its sink, if any, and the fields it adds to every record. -/
structure Logger where
  sink : Option Sink := none
  context : List Field := []
deriving Inhabited

namespace Logger

/-- The logger with more fields. -/
def withFields (l : Logger) (fs : List Field) : Logger := { l with context := l.context ++ fs }

/-- Whether a severity is written. -/
def enabled (l : Logger) (s : Severity) : Bool :=
  match l.sink with
  | some k => Level.admits k.threshold s
  | none => false

/-- The line a record gives, if the logger writes it. -/
def line? (l : Logger) (s : Severity) (message : String) (fs : List Field) : Option Json :=
  match l.sink with
  | none => none
  | some k =>
    if !Level.admits k.threshold s then none
    else
      let r : Record := { severity := s, message := message, fields := l.context ++ fs }
      some (if k.json then r.toJson else .str r.consoleLine)

end Logger

/-- The lines a limited logger may still pass. -/
def burst : Nat := 5

/-- A limited logger: a logger and the lines it may still pass. -/
structure Limited where
  logger : Logger
  left : Nat := burst
deriving Inhabited

/-- The line of a warning or error through a limited logger, and the limiter after it. -/
def Limited.line? (l : Limited) (s : Severity) (message : String) (fs : List Field) :
    Option Json × Limited :=
  if !l.logger.enabled s then (none, l)
  else if l.left = 0 then (none, l)
  else (l.logger.line? s message fs, { l with left := l.left - 1 })

end Log

end HostDispatch
