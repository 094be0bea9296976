import HostDispatch.Text.Quoted
import HostDispatch.Text.Decimal

/-!
# Metrics

A registry keeps counters and gauges in sixteen families, each named
`namespace_subsystem_name` and split into series by its label values. Constant labels given when
the registry is built are added to every series.

Building a registry checks each family in turn: the full name must be a metric name (a letter,
underscore or colon, then letters, digits, underscores or colons), each constant label a label name
(a letter or underscore, then letters, digits or underscores, and not beginning with two
underscores), and no constant label may repeat a label of the family. The first failure is the
message of the refusal, which shows the family's descriptor; of several invalid label names it names
the last one given.

Series are read back as lines `name{label="value",...} value`, labels in name order, values quoted,
the value in shortest form, and the lines in text order. Only series that were touched appear.
-/

namespace HostDispatch

namespace Metrics

/-- The families of series a registry keeps, in the order they are registered. -/
inductive Family where
  | actionsScheduled
  | actionsCanceled
  | actionsFired
  | actionsPending
  | cancelMisuse
  | deliveriesDropped
  | callbackDuration
  | dispatches
  | providersDestroyed
  | armFailures
  | timerFirings
  | fetchResults
  | fetchDuration
  | poolSize
  | poolActive
  | poolQueued
deriving DecidableEq, Repr, Inhabited

namespace Family

/-- Every family, in registration order. -/
def all : List Family :=
  [.actionsScheduled, .actionsCanceled, .actionsFired, .actionsPending, .cancelMisuse,
   .deliveriesDropped, .callbackDuration, .dispatches, .providersDestroyed, .armFailures,
   .timerFirings, .fetchResults, .fetchDuration, .poolSize, .poolActive, .poolQueued]

/-- The subsystem of a family. -/
def subsystem : Family → String
  | .actionsScheduled | .actionsCanceled | .actionsFired | .actionsPending | .cancelMisuse
  | .deliveriesDropped | .callbackDuration => "hostsched"
  | .dispatches | .providersDestroyed | .armFailures => "async"
  | .timerFirings => "timer"
  | .fetchResults | .fetchDuration => "fetch"
  | .poolSize | .poolActive | .poolQueued => "workerpool"

/-- The last part of a family's name. -/
def name : Family → String
  | .actionsScheduled => "actions_scheduled_total"
  | .actionsCanceled => "actions_canceled_total"
  | .actionsFired => "actions_fired_total"
  | .actionsPending => "actions_pending"
  | .cancelMisuse => "cancel_misuse_total"
  | .deliveriesDropped => "deliveries_dropped_total"
  | .callbackDuration => "callback_duration_seconds"
  | .dispatches => "dispatches_total"
  | .providersDestroyed => "providers_destroyed_total"
  | .armFailures => "arm_failures_total"
  | .timerFirings => "firings_total"
  | .fetchResults => "results_total"
  | .fetchDuration => "duration_seconds"
  | .poolSize => "size"
  | .poolActive => "active_workers"
  | .poolQueued => "queued_tasks"

/-- The help text of a family. -/
def help : Family → String
  | .actionsScheduled => "Total number of scheduler actions armed"
  | .actionsCanceled => "Total number of pending scheduler actions canceled"
  | .actionsFired => "Total number of scheduler action firings"
  | .actionsPending => "Number of armed scheduler actions"
  | .cancelMisuse => "Cancels of actions that already fired or were already canceled"
  | .deliveriesDropped => "Firings that could not be handed to the delivery pool"
  | .callbackDuration => "Time spent inside continuation callbacks"
  | .dispatches => "Dispatch attempts by outcome (delivered, gone, panic)"
  | .providersDestroyed => "Async providers destroyed, by provider kind and reason"
  | .armFailures => "Re-arms rejected by the scheduler from inside a firing"
  | .timerFirings => "Timer task firings by mode"
  | .fetchResults => "HTTP fetch completions by result"
  | .fetchDuration => "Time from Run to completion of HTTP fetches"
  | .poolSize => "Current worker pool size"
  | .poolActive => "Number of active workers"
  | .poolQueued => "Number of queued tasks"

/-- The labels that split a family into series. -/
def labels : Family → List String
  | .actionsScheduled | .actionsCanceled | .actionsFired => ["scheduler_name", "kind"]
  | .actionsPending | .cancelMisuse | .deliveriesDropped | .callbackDuration => ["scheduler_name"]
  | .dispatches => ["controller_name", "outcome"]
  | .providersDestroyed => ["provider", "reason"]
  | .armFailures => ["provider", "provider_name"]
  | .timerFirings => ["timer_name", "mode"]
  | .fetchResults => ["fetch_name", "result"]
  | .fetchDuration => ["fetch_name"]
  | .poolSize | .poolActive | .poolQueued => ["pool_name"]

end Family

/-- Whether a name is a metric name. -/
def validMetricName (s : String) : Bool :=
  match s.toList with
  | [] => false
  | c :: cs =>
    (c.isAlpha || c = '_' || c = ':') && cs.all (fun c => c.isAlphanum || c = '_' || c = ':')

/-- Whether a name is a label name that may be used. -/
def validLabelName (s : String) : Bool :=
  match s.toList with
  | [] => false
  | c :: cs =>
    (c.isAlpha || c = '_') && cs.all (fun c => c.isAlphanum || c = '_') && !s.startsWith "__"

/-- A series: its family, its label values, its value. -/
structure Series where
  family : Family
  values : List String
  value : Int
deriving Inhabited

/-- A registry: the namespace (`space`), the constant labels and the touched series. -/
structure Registry where
  space : String
  constLabels : List (String × String)
  series : List Series := []
deriving Inhabited

/-- The full name of a family. -/
def fullName (ns : String) (f : Family) : String := ns ++ "_" ++ f.subsystem ++ "_" ++ f.name

/-- The text of a family's descriptor in a refusal. -/
def descriptorText (ns : String) (f : Family) : String :=
  "Desc\x7bfqName: " ++ Text.quote (fullName ns f) ++ ", help: " ++ Text.quote f.help ++
    ", constLabels: \x7b\x7d, variableLabels: \x7b" ++ ",".intercalate f.labels ++ "\x7d\x7d"

/-- Insert a label pair into a list sorted by name. -/
def insertLabel (p : String × String) : List (String × String) → List (String × String)
  | [] => [p]
  | q :: qs => if p.1 < q.1 then p :: q :: qs else q :: insertLabel p qs

/-- Why a family cannot be registered, if it cannot. Every constant label name is checked, and of
several invalid ones the last in the order the labels were given is reported. -/
def refusal (ns : String) (labels : List (String × String)) (f : Family) : Option String :=
  let name := fullName ns f
  let reason : Option String :=
    if !validMetricName name then some (Text.quote name ++ " is not a valid metric name")
    else
      match (labels.filter fun p => !validLabelName p.1).getLast? with
      | some (bad, _) =>
        some (Text.quote bad ++ " is not a valid label name for metric " ++ Text.quote name)
      | none =>
        if labels.any (fun p => f.labels.contains p.1) then
          some ("duplicate label names in constant and variable labels for metric " ++
            Text.quote name)
        else none
  reason.map fun r => "descriptor " ++ descriptorText ns f ++ " is invalid: " ++ r

/-- Build a registry; an empty namespace means `goasync`. Fails with the refusal of the first
family that cannot be registered. -/
def Registry.build (ns : String) (labels : List (String × String)) : Except String Registry :=
  let ns := if ns = "" then "goasync" else ns
  match Family.all.findSome? (refusal ns labels) with
  | some r => .error r
  | none => .ok { space := ns, constLabels := labels }

namespace Registry

/-- Add to the value of a series, touching it. -/
def add (r : Registry) (f : Family) (values : List String) (delta : Int) : Registry :=
  if r.series.any (fun s => s.family == f && s.values == values) then
    { r with series := r.series.map fun s =>
        if s.family == f && s.values == values then { s with value := s.value + delta } else s }
  else { r with series := r.series ++ [{ family := f, values := values, value := delta }] }

/-- Set the value of a series, touching it. -/
def set (r : Registry) (f : Family) (values : List String) (v : Int) : Registry :=
  let r := r.add f values 0
  { r with series := r.series.map fun s =>
      if s.family == f && s.values == values then { s with value := v } else s }

/-- Add one to a series. -/
def inc (r : Registry) (f : Family) (values : List String) : Registry := r.add f values 1

/-- The line of a series. -/
def line (r : Registry) (s : Series) : String :=
  let pairs := (r.constLabels ++ s.family.labels.zip s.values).foldr insertLabel []
  fullName r.space s.family ++ "\x7b" ++
    ",".intercalate (pairs.map fun (k, v) => k ++ "=" ++ Text.quote v) ++ "\x7d " ++
    Decimal.compact (Float.ofInt s.value)

/-- Insert a line into a list sorted as text. -/
def insertLine (l : String) : List String → List String
  | [] => [l]
  | x :: xs => if l < x then l :: x :: xs else x :: insertLine l xs

/-- The lines of every touched series, in text order. Histograms are not read back. -/
def lines (r : Registry) : List String :=
  ((r.series.filter fun s => s.family != .callbackDuration && s.family != .fetchDuration).map
    r.line).foldr insertLine []

end Registry

end Metrics

end HostDispatch
