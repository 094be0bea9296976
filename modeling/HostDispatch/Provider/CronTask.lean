import HostDispatch.Provider.Basic
import HostDispatch.Cron.Next
import HostDispatch.Validation
import HostDispatch.Log.Record

/-!
# Cron tasks

A cron task fires at the activations of a cron schedule read in a zone. It keeps exactly one
one-shot action armed for the next activation, and re-arms from inside each firing before it
dispatches; a schedule with no activation left arms nothing. A controller that answers no destroys
the task.
-/

namespace HostDispatch

/-- The hint given with a rejected expression. -/
def cronHint : String := "use 5 or 6 fields, or a descriptor like @every 1m"

/-- Read a cron expression as a setting: it must not be empty, and a rejected expression is a
rejected setting with its reason. A crash of the reader is passed on as it is. -/
def parseCron (expr : String) : Except (Sum Fault String) Cron.Schedule :=
  if expr = "" then .error (.inl (.invalid "crontask" "expr" expr "cannot be empty"
    ("provide a non-empty " ++ "expr")))
  else
    match Cron.parse expr with
    | .ok s => .ok s
    | .error (.invalid reason) => .error (.inl (.invalid "crontask" "expr" expr reason cronHint))
    | .error (.crash message) => .error (.inr message)

/-- The state of a cron task. -/
structure CronTask where
  name : String
  expr : String
  schedule : Cron.Schedule
  zone : Zone
  /-- The id of its continuation. -/
  cont : Nat
  destroyed : Bool := false
  ran : Bool := false
  controller : Option ControllerRef := none
  pending : Option Nat := none
  /-- The next activation armed, or the zero time. -/
  next : Time := Time.zero
  logger : Log.Logger
deriving Inhabited

namespace CronTask

/-- A task on a continuation; the name `cron` when none is given. -/
def make (name expr : String) (schedule : Cron.Schedule) (zone : Zone) (cont : Nat)
    (logger : Log.Logger) : CronTask :=
  let name := if name = "" then "cron" else name
  { name := name, expr := expr, schedule := schedule, zone := zone, cont := cont,
    logger := logger.withFields
      [Log.text "component" "crontask", Log.text "task" name, Log.text "expr" expr] }

/-- The state reported for a task. -/
def info (t : CronTask) : Json :=
  .obj [("type", .str "cron"), ("expr", .str t.expr), ("destroyed", .bool t.destroyed),
        ("next", if t.destroyed || t.next.isZero then .null else .str t.next.render)]

end CronTask

end HostDispatch
