import HostDispatch.Scheduler.Pool
import HostDispatch.Request.Observe
import HostDispatch.Answer

/-!
# Pool requests

A `pool` request makes a pool, from its counts alone when `legacy` is set, submits its tasks and
shuts it down. It shows the result of each submission, of submitting after the shutdown, the
totals, and each finished task in task order.
-/

namespace HostDispatch

namespace Request

/-- A task of a pool request: what it does (none for a missing task) and how it is handed over. -/
def poolTaskArg (t : Json) : Except String (Option Job × Handoff) := do
  let kind ← str t "kind"
  let msg ← str t "msg"
  let job ← if kind = "ok" then pure (some Job.succeed)
    else if kind = "error" then pure (some (Job.fail msg))
    else if kind = "panic" then pure (some (Job.panic msg))
    else if kind = "wait_ctx" then pure (some Job.awaitDeadline)
    else if kind = "sleep" then pure (some Job.pause)
    else if kind = "nil" then pure none
    else throw (fieldFault "kind" ("unknown task kind " ++ Text.quote kind))
  let canceled ← bool t "canceled_ctx"
  let trying ← bool t "try"
  let how := if canceled then Handoff.canceled else if trying then .trySubmit else .submit
  return (job, how)

/-- A finished task. -/
def completionJson (c : Completion) : Json :=
  .obj ([("task", .nat c.task), ("error", Json.ofOption .str c.fault)] ++
    (match c.recovered with
      | some v => [("panic_handler", .str v)]
      | none => []))

/-- The answer to `pool`. -/
def poolAnswer (req : Json) : Except String Json := do
  let legacy ← bool req "legacy"
  let name ← str req "name"
  let timeout ← int req "task_timeout"
  let handler ← bool req "panic_handler"
  let cfg : PoolConfig := {
    name := if legacy then "" else name
    workers := ← int req "workers"
    queueSize := ← int req "queue"
    taskTimeout := if legacy then 0 else timeout
    panicHandler := !legacy && handler
    configured := !legacy }
  let tasks ← (← list req "tasks").mapM poolTaskArg
  let registry ← registryArg req
  match registry with
  | some (.error e) => return Answer.panic e
  | _ =>
  match Pool.run cfg (registry.bind Except.toOption) tasks with
  | .error m => return Answer.panic m
  | .ok r =>
    let metrics := match r.metrics with
      | some m => [("metrics", Answer.lines m.lines)]
      | none => []
    return .obj ([("size", .int r.size), ("submits", .arr (r.submits.map Answer.okOr)),
      ("after_shutdown", .arr (r.afterShutdown.map Answer.okOr)),
      ("total_submitted", .nat r.submitted), ("total_completed", .nat r.completed),
      ("queue_size", .nat r.queued), ("active", .nat r.active),
      ("completed", Json.ofOption (fun cs => .arr (cs.map completionJson)) r.completions)] ++
      metrics)

end Request

end HostDispatch
