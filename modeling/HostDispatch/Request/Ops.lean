import HostDispatch.Request.Faults
import HostDispatch.Scenario.Run
import HostDispatch.Log.Level
import HostDispatch.Data.Json.Parse
import HostDispatch.Request.Config
import HostDispatch.Request.Fetch
import HostDispatch.Context
import HostDispatch.Request.Loop
import HostDispatch.Request.Pool

/-!
# Requests

A request is a JSON object whose `op` names what to do; the answer is one JSON value. This module
reads the small requests (cron activations, durations, setting checks, faults, enumerations, log
levels) and passes scenarios on. A request that cannot be read is answered as bad input.
-/

namespace HostDispatch

namespace Request

/-- The activations of a cron expression from a start, in a zone. -/
def cronAnswer (req : Json) : Except String Json := do
  let expr ← str req "expr"
  let loc ← str req "loc"
  let start ← time? req "from"
  let n ← int req "n"
  let n := if n ≤ 0 then 1 else n.toNat
  match parseCron expr with
  | .error (.inl f) => return Answer.fault f
  | .error (.inr m) => return Answer.panic m
  | .ok sched =>
    match Zone.load loc with
    | .error e => return Answer.fault (.plain e)
    | .ok zone =>
      let t := (start.getD Time.epoch).inZone zone
      let step (acc : List Json × Time × Bool) (_ : Nat) : List Json × Time × Bool :=
        let (out, t, stopped) := acc
        if stopped then acc
        else
          let t' := sched.next t
          if t'.isZero then (out ++ [.null], t', true) else (out ++ [.str t'.render], t', false)
      let (out, _, _) := (List.range n).foldl step ([], t, false)
      return .obj [("next", .arr out)]

/-- Read a duration setting. -/
def durationAnswer (req : Json) : Except String Json := do
  let path ← str req "path"
  let raw ← str req "raw"
  let r := match ← int? req "def" with
    | some d => Settings.durationOrDefault path raw d
    | none => Settings.durationField path raw
  match r with
  | .ok d => return .obj [("ns", .int d)]
  | .error e => return Answer.fault e

/-- The name of a numbered fetch result. -/
def fetchResultName (n : Int) : String :=
  if n = 0 then "pending" else if n = 1 then "success" else if n = 2 then "timeout"
  else if n = 3 then "failure" else "result(" ++ toString n ++ ")"

/-- The name of a numbered value of an enumeration. -/
def enumAnswer (req : Json) : Except String Json := do
  let ty ← str req "type"
  let v ← int req "value"
  let s ← if ty = "timer_mode" then pure (TimerMode.nameOfInt v)
    else if ty = "fetch_result" then pure (fetchResultName v)
    else if ty = "event" then pure (Event.nameOfInt v)
    else if ty = "kind" then pure (Kind.ofInt v).name
    else throw ("unknown enum type " ++ Text.quote ty)
  return .obj [("s", .str s)]

/-- Read a log level name with a default. -/
def levelAnswer (req : Json) : Except String Json := do
  let s ← str req "s"
  let d := ((← int? req "def").getD Level.info)
  let l := Level.parse s (Level.ofInt d)
  return .obj [("level", .int l), ("name", .str (Level.name l))]

/-- The longest deadline a request may wait for: 100 ms. -/
def longestWait : Int := 100000000

/-- Derive a context with a timeout from a parent (or from none), act on it, and show it. -/
def contextAnswer (req : Json) : Except String Json := do
  let timeout ← int req "timeout"
  let noParent ← bool req "nil_parent"
  let act := (← str? req "then").getD "cancel"
  let c := Context.derive timeout
  let before := [("canceled_before", Json.bool c.isCanceled), ("timed_out_before", .bool c.isTimedOut)]
  let (c, shown) ← if act = "cancel" then pure (c.cancel, before)
    else if act = "cancel_parent" then pure (if noParent then c else c.cancel, before)
    else if act = "none" then pure (c, before)
    else if act = "wait" then
      if timeout ≤ 0 || timeout > longestWait then
        throw (fieldFault "timeout" "wait needs a deadline of at most 100ms")
      else pure (c.expire, [])
    else throw (fieldFault "then" ("unknown action " ++ Text.quote act))
  return .obj ([("has_deadline", .bool c.hasDeadline)] ++ shown ++
    [("canceled", .bool c.isCanceled), ("timed_out", .bool c.isTimedOut),
     ("err", Json.ofOption .str c.err)])

/-- Which registry a metrics setting names. -/
inductive RegistryChoice where
  | none
  | global
  | own
deriving DecidableEq

/-- Build a metrics setting, from the defaults when asked, and show what building it gives:
nothing when disabled, the shared registry for a default setting, else a registry of its own. -/
def metricsConfigAnswer (req : Json) : Except String Json := do
  let fromDefaults ← bool req "default_config"
  let enabled ← boolOr req "enabled" fromDefaults
  let ns := (← str? req "namespace").getD (if fromDefaults then "goasync" else "")
  let labels ← labelsArg req
  let registry ← match ← str? req "registry" with
    | none => pure (if fromDefaults then RegistryChoice.global else .none)
    | some "nil" => pure .none
    | some "default" => pure .global
    | some "private" => pure .own
    | some other => throw (fieldFault "registry" ("unknown registry " ++ Text.quote other))
  let labelLines := (labels.map fun (k, v) => k ++ "=" ++ v).foldr Header.insertLine []
  let build ← if !enabled then pure (Json.str "nil")
    else if registry ≠ .own && (ns = "" || ns = "goasync") && labels.isEmpty then
      pure (.str "default_registry")
    else if registry ≠ .own then throw "config would register on the global Prometheus registry"
    else match Metrics.Registry.build ns labels with
      | .ok _ => pure (.str "new_registry")
      | .error e => pure (Answer.panic e)
  return .obj [("enabled", .bool enabled), ("namespace", .str ns),
    ("labels", if labelLines.isEmpty then .null else .arr (labelLines.map .str)),
    ("registry_is_default", .bool (registry = .global)), ("build", build)]

/-- The answer to a request. -/
def answer (req : Json) : Json :=
  let op := match req.get? "op" with
    | some (.str s) => s
    | _ => ""
  let small (f : Json → Except String Json) : Json :=
    match f req with
    | .ok j => j
    | .error e => Answer.badInput e
  if op = "sim" then Scenario.answer req
  else if op = "cron" then small cronAnswer
  else if op = "duration" then small durationAnswer
  else if op = "validate" then small validateAnswer
  else if op = "error" then small errorAnswer
  else if op = "enum" then small enumAnswer
  else if op = "level" then small levelAnswer
  else if op = "config" then small configAnswer
  else if op = "config_load" then small configLoadAnswer
  else if op = "config_struct" then small configStructAnswer
  else if op = "fetch_new" then small fetchNewAnswer
  else if op = "fetch" then small fetchAnswer
  else if op = "context" then small contextAnswer
  else if op = "loop" then small loopAnswer
  else if op = "pool" then small poolAnswer
  else if op = "metrics_config" then small metricsConfigAnswer
  else Answer.badInput ("unknown op " ++ Text.quote op)

/-- The answer to one line of text holding a request: a JSON object, or `null` for a request
without fields. -/
def answerLine (line : String) : String :=
  match Json.parse line with
  | .ok (.arr _) | .ok (.str _) | .ok (.num _) | .ok (.bool _) | .error _ =>
    (Answer.badInput "invalid JSON").render
  | .ok req => (answer req).render

end Request

end HostDispatch
