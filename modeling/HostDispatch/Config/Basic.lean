import HostDispatch.Provider.CronTask
import HostDispatch.Request.Field
import HostDispatch.Answer

/-!
# Configuration

A configuration names the scheduler (its name, workers, queue size, least period and longest
sleep), the logging level and format, the metrics setting (enabled, namespace, listen address,
constant labels), timers (each one-off, periodic or cron) and health checks. Durations are kept as
text and read when used.

A configuration is valid when no count is negative, every duration reads as a non-negative
duration, the level and format are known (or empty), every timer has a name, a known kind and
readable settings for that kind, no two timers share a name, and every check has a name, a URL, a
positive interval and a readable timeout. All faults are reported together, in that order.

Written back, a configuration leaves out empty optional settings.
-/

namespace HostDispatch

namespace Config

/-- The scheduler settings. -/
structure Scheduler where
  name : String := ""
  workers : Int := 0
  queueSize : Int := 0
  minPeriod : String := ""
  maxSleep : String := ""
deriving Inhabited, DecidableEq

/-- The logging settings. -/
structure Logging where
  level : String := ""
  format : String := ""
deriving Inhabited, DecidableEq

/-- The metrics settings; labels keep their first place when set again. -/
structure MetricsSettings where
  enabled : Bool := false
  space : String := ""
  listen : String := ""
  labels : List (String × String) := []
deriving Inhabited, DecidableEq

/-- A timer's settings. -/
structure TimerSettings where
  name : String := ""
  kind : String := ""
  period : String := ""
  initialPeriod : String := ""
  cron : String := ""
  location : String := ""
deriving Inhabited, DecidableEq

/-- A health check's settings. -/
structure CheckSettings where
  name : String := ""
  url : String := ""
  method : String := ""
  interval : String := ""
  timeout : String := ""
deriving Inhabited, DecidableEq

end Config

/-- A configuration. -/
structure Settings where
  scheduler : Config.Scheduler := {}
  logging : Config.Logging := {}
  metrics : Config.MetricsSettings := {}
  timers : List Config.TimerSettings := []
  checks : List Config.CheckSettings := []
deriving Inhabited, DecidableEq

namespace Settings

/-- The defaults that a configuration file starts from. -/
def defaults : Settings :=
  { scheduler := { name := "default", workers := 4, queueSize := 100, minPeriod := "1ms",
                   maxSleep := "60s" },
    logging := { level := "info", format := "console" },
    metrics := { enabled := true, space := "goasync" } }

/-- Members with empty texts and zero counts left out. -/
def present (fs : List (String × Json)) : List (String × Json) :=
  fs.filter fun (_, v) =>
    match v with
    | .str s => s ≠ ""
    | .num t => t ≠ "0"
    | .obj ms => !ms.isEmpty
    | .arr xs => !xs.isEmpty
    | _ => true

/-- A configuration as written back. -/
def toJson (c : Settings) : Json :=
  let s := c.scheduler
  let sched := Json.obj (present [("name", .str s.name), ("workers", .int s.workers),
    ("queue_size", .int s.queueSize), ("min_period", .str s.minPeriod),
    ("max_sleep", .str s.maxSleep)])
  let logging := Json.obj (present [("level", .str c.logging.level),
    ("format", .str c.logging.format)])
  let m := c.metrics
  let metrics := Json.obj ([("enabled", .bool m.enabled)] ++ present [("namespace", .str m.space),
    ("listen", .str m.listen), ("labels", .obj (m.labels.map fun (k, v) => (k, .str v)))])
  let timer (t : Config.TimerSettings) : Json :=
    .obj ([("name", .str t.name), ("kind", .str t.kind)] ++ present [("period", .str t.period),
      ("initial_period", .str t.initialPeriod), ("cron", .str t.cron),
      ("location", .str t.location)])
  let check (k : Config.CheckSettings) : Json :=
    .obj ([("name", .str k.name), ("url", .str k.url)] ++ present [("method", .str k.method)] ++
      [("interval", .str k.interval)] ++ present [("timeout", .str k.timeout)])
  .obj ([("scheduler", sched), ("logging", logging), ("metrics", metrics)] ++
    present [("timers", .arr (c.timers.map timer)), ("checks", .arr (c.checks.map check))])

/-- A duration setting read from text: blank text is zero, and a negative duration is refused. -/
def durationField (path raw : String) : Except Fault Int :=
  let s := Text.trim raw
  if s = "" then .ok 0
  else
    match Duration.parse s with
    | .error e => .error (.wrapped (path ++ ": invalid duration " ++ Text.quote raw ++ ": ") ""
        (.plain e))
    | .ok d => if d < 0 then .error (.plain (path ++ ": duration must be >= 0")) else .ok d

/-- A duration setting with a default for blank or zero text. -/
def durationOrDefault (path raw : String) (default : Int) : Except Fault Int := do
  let d ← durationField path raw
  pure (if d ≤ 0 then default else d)

/-- The fault of a duration setting, if it has one. -/
def durationFault (path raw : String) : Option Fault :=
  match durationField path raw with
  | .ok _ => none
  | .error e => some e

/-- The fault of a check that failed. -/
def failure (check : Except Fault Unit) : Option Fault :=
  match check with
  | .error e => some e
  | .ok () => none

/-- The levels a logging setting may name. -/
def levels : List String := ["trace", "debug", "info", "warn", "warning", "error", "off", "disabled"]

/-- The kinds a timer may have. -/
def timerKinds : List String := ["one_off", "periodic", "cron"]

/-- The zone a timer names, UTC when it names none. -/
def timerZone (t : Config.TimerSettings) : Except String Zone :=
  if t.location = "" then .ok Zone.utc else Zone.load t.location

/-- The first fault of a timer's settings. A cron expression whose reading crashes is passed on. -/
def timerFault (i : Nat) (t : Config.TimerSettings) : Except String (Option Fault) :=
  let field (f : String) : String := "timers[" ++ toString i ++ "]." ++ f
  match Validation.notEmpty "config" (field "name") t.name with
  | .error e => .ok (some e)
  | .ok () =>
  match Validation.oneOf "config" (field "kind") t.kind timerKinds with
  | .error e => .ok (some e)
  | .ok () =>
    if t.kind = "cron" then
      match parseCron t.cron with
      | .error (.inl f) => .ok (some f)
      | .error (.inr m) => .error m
      | .ok _ =>
        match timerZone t with
        | .error e => .ok (some (.invalid "config" (field "location") t.location e ""))
        | .ok _ => .ok none
    else
      match durationFault (field "period") t.period with
      | some e => .ok (some e)
      | none => .ok (durationFault (field "initial_period") t.initialPeriod)

/-- The first fault of a check's settings. -/
def checkFault (i : Nat) (c : Config.CheckSettings) : Option Fault :=
  let field (f : String) : String := "checks[" ++ toString i ++ "]." ++ f
  match Validation.notEmpty "config" (field "name") c.name with
  | .error e => some e
  | .ok () =>
  match Validation.notEmpty "config" (field "url") c.url with
  | .error e => some e
  | .ok () =>
  match durationField (field "interval") c.interval with
  | .error e => some e
  | .ok d =>
    if d ≤ 0 then some (.invalid "config" (field "interval") c.interval "must be > 0" "")
    else durationFault (field "timeout") c.timeout

/-- Every fault of a configuration, in order; a cron expression whose reading crashes is passed
on. -/
def faults (c : Settings) : Except String (List Fault) := do
  let s := c.scheduler
  let mut out : List Fault := []
  out := out ++ (if s.workers < 0 then
    [.invalid "config" "scheduler.workers" (toString s.workers) "must be >= 0" ""] else [])
  out := out ++ (if s.queueSize < 0 then
    [.invalid "config" "scheduler.queue_size" (toString s.queueSize) "must be >= 0" ""] else [])
  out := out ++ (durationFault "scheduler.min_period" s.minPeriod).toList
  out := out ++ (durationFault "scheduler.max_sleep" s.maxSleep).toList
  out := out ++ (if c.logging.level = "" then none
    else failure (Validation.oneOf "config" "logging.level" c.logging.level levels)).toList
  out := out ++ (if c.logging.format = "" then none
    else failure (Validation.oneOf "config" "logging.format" c.logging.format
      ["console", "json"])).toList
  let mut names : List String := []
  for (t, i) in c.timers.zipIdx do
    out := out ++ (← timerFault i t).toList
    if names.contains t.name then
      out := out ++ [.invalid "config" ("timers[" ++ toString i ++ "].name") t.name
        "duplicate name" ""]
    names := names ++ [t.name]
  for (k, i) in c.checks.zipIdx do
    out := out ++ (checkFault i k).toList
  return out

/-- Check a configuration: all its faults joined, or none. -/
def validate (c : Settings) : Except String (Option Fault) := do
  pure (Fault.join (← c.faults))

end Settings

end HostDispatch
