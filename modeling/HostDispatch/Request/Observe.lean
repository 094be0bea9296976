import HostDispatch.Request.Field
import HostDispatch.Metrics.Registry
import HostDispatch.Log.Record

/-!
# Observing a request

A request may ask for a metrics registry with `metrics` (`namespace`, and `labels` whose values
are all texts) and for log lines with `log` (`level` and `format`). Without them nothing is
counted and nothing is logged.
-/

namespace HostDispatch

namespace Request

/-- The constant labels of a metrics setting; every value must be text. -/
def labelsArg (m : Json) : Except String (List (String × String)) := do
  let fs ← members m "labels"
  fs.mapM fun (k, v) =>
    match v with
    | .str s => .ok (k, s)
    | _ => .error (fieldFault "labels" "not a string")

/-- The registry a request asks for: none without `metrics`, else the registry or the refusal
that building it met. -/
def registryArg (req : Json) : Except String (Option (Except String Metrics.Registry)) := do
  match ← obj? req "metrics" with
  | none => pure none
  | some m =>
    let ns ← str m "namespace"
    let labels ← labelsArg m
    pure (some (Metrics.Registry.build ns labels))

/-- The logger a request asks for: one that writes nothing without `log`. -/
def loggerArg (req : Json) : Except String Log.Logger := do
  match ← obj? req "log" with
  | none => pure {}
  | some l =>
    let level ← str l "level"
    let format ← str l "format"
    pure { sink := some (Log.Sink.ofConfig level format) }

end Request

end HostDispatch
