import HostDispatch.Config.Parse
import HostDispatch.Config.Loop
import HostDispatch.Metrics.Registry

/-!
# Configuration requests

A configuration is answered with what each part of the program reads from it: the settings as
written back, each timer's durations and zone, each check's interval and timeout, the scheduler
settings with their defaults, the logging settings, and the metrics settings with whether a
registry can be built from them.

A configuration comes from text with a file name (`config`), from a file in a directory
(`config_load`, where the directory is written `$DIR`), or from a JSON object decoded leniently
into empty settings (`config_struct`, answered with its validity too).
-/

namespace HostDispatch

namespace Request

/-- A timer's durations and zone. -/
def timerJson (t : Config.TimerSettings) : Json :=
  let durations : Except Fault (Int × Int) := do
    let p ← Settings.durationField "period" t.period
    let i ← Settings.durationField "initial_period" t.initialPeriod
    pure (p, i)
  let loc := match Settings.timerZone t with
    | .ok z => Json.str z.name
    | .error e => Answer.fault (.plain e)
  .obj [("durations", match durations with
          | .ok (p, i) => .arr [.int p, .int i]
          | .error f => Answer.fault f),
        ("loc", loc)]

/-- A check's interval and timeout. -/
def checkJson (c : Config.CheckSettings) : Json :=
  let timings : Except Fault (Int × Int) := do
    let i ← Settings.durationField "interval" c.interval
    let t ← Settings.durationField "timeout" c.timeout
    pure (i, t)
  match timings with
  | .ok (i, t) => .arr [.int i, .int t]
  | .error f => Answer.fault f

/-- The scheduler loop's configuration, with the default least period and longest sleep. -/
def schedulerJson (c : Settings) : Json :=
  match c.loopConfig with
  | .ok l =>
    .obj [("name", .str l.name), ("workers", .int l.workers), ("queue_size", .int l.queueSize),
      ("min_period", .int l.minPeriod), ("max_sleep", .int l.maxSleep)]
  | .error f => Answer.fault f

/-- Texts in increasing order. -/
def sorted (xs : List String) : List String := xs.mergeSort fun a b => decide (a ≤ b)

/-- The metrics settings, and whether a fresh registry is built from them: `false` when metrics
are off, a panic when a name is refused. -/
def metricsJson (m : Config.MetricsSettings) : Json :=
  let labels := sorted (m.labels.map fun (k, v) => k ++ "=" ++ v)
  let build := if !m.enabled then Json.bool false
    else
      match Metrics.Registry.build m.space m.labels with
      | .ok _ => .bool true
      | .error e => Answer.panic e
  .obj [("enabled", .bool m.enabled), ("namespace", .str m.space),
    ("labels", if labels.isEmpty then .null else .arr (labels.map .str)), ("build", build)]

/-- Everything read from a configuration. -/
def settingsJson (c : Settings) : List (String × Json) :=
  [("config", c.toJson),
   ("timers", if c.timers.isEmpty then .null else .arr (c.timers.map timerJson)),
   ("checks", if c.checks.isEmpty then .null else .arr (c.checks.map checkJson)),
   ("hostsched", schedulerJson c),
   ("log", .obj [("level", .str c.logging.level), ("format", .str c.logging.format)]),
   ("metrics", metricsJson c.metrics)]

/-- The answer to reading a configuration file. -/
def outcomeJson : Settings.Outcome → Json
  | .ok c => .obj (settingsJson c)
  | .fault f => Answer.fault f
  | .crash m => Answer.panic m

/-- A configuration read from text under a file name. -/
def configAnswer (req : Json) : Except String Json := do
  let name ← str req "name"
  let data ← str req "data"
  return outcomeJson (Settings.parse name data)

/-- Whether a name names a file directly inside a directory. -/
def plainFileName (name : String) : Bool :=
  name ≠ "" && name ≠ "." && name ≠ ".." && !name.contains '/'

/-- A configuration read from a file of a directory, or the fault of a file that is not there. -/
def configLoadAnswer (req : Json) : Except String Json := do
  let name ← str req "name"
  let data ← str req "data"
  let missing ← bool req "missing"
  if !plainFileName name then throw "name must be a plain file name"
  let path := "$DIR/" ++ name
  if missing then
    return Answer.fault (.wrapped ("open " ++ path ++ ": ") "" (.plain "no such file or directory"))
  return outcomeJson (Settings.parse path data)

/-- Settings decoded leniently from an object, with their validity. -/
def configStructAnswer (req : Json) : Except String Json := do
  let j := (req.get? "config").getD .null
  let c ← Settings.decode false j {}
  let valid := match c.validate with
    | .ok none => Answer.ok
    | .ok (some f) => Answer.fault f
    | .error m => Answer.panic m
  return .obj (settingsJson c ++ [("validate", valid)])

end Request

end HostDispatch
