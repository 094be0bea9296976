import HostDispatch.Web.Exchange
import HostDispatch.Validation
import HostDispatch.Log.Record
import HostDispatch.Metrics.Registry
import HostDispatch.Context
import HostDispatch.Scheduler.Pool

/-!
# Fetches

A fetch performs one exchange and hands its outcome to a controller. It is checked when made: the
URL must be given, readable, and `http` or `https`; the timeout must not be negative. The method
defaults to `GET`, the name to `fetch`, and the body limit to 10 MiB (a limit that is not
positive keeps the default).

Running a fetch needs a controller, and a fetch runs once. Its job is a task of its own, under the
background context, or is tried on a pool: Run's TrySubmit is a call of the pool's machine, and a
pool that is full or shut down refuses the job, which then never runs. A pool runs the job each
time a worker starts its task, under a context with the pool's task timeout.

The job sends the request with the header the fetch had when it was run, and reads the body
through the limit, all under a context derived from the one it is given with the fetch's timeout.
A fault that reports a timeout, or any fault once that context's deadline has passed, makes the
result `timeout`, its fault also matching the timeout sentinel (`operation timed out: ...`); any
other fault makes it `failure`; a response makes it `success` whatever its status. The job then
publishes the outcome, closes Done, counts and logs the completion, dispatches once, releases the
controller and counts the provider destroyed. What others can see of the job is a list of effects
in this order; the session is what they leave behind.
-/

namespace HostDispatch

/-- The result of a fetch. -/
inductive FetchResult where
  | pending
  | success
  | timeout
  | failure
deriving DecidableEq, Repr, Inhabited

/-- The name of a result. -/
def FetchResult.name : FetchResult → String
  | .pending => "pending"
  | .success => "success"
  | .timeout => "timeout"
  | .failure => "failure"

/-- The settings a fetch is made with; empty texts and a limit that is not positive keep the
defaults. -/
structure FetchOptions where
  method : String := ""
  headers : List (String × String) := []
  body : Option (List Nat) := none
  timeout : Int := 0
  maxBody : Int := 0
  name : String := ""
  logger : Log.Logger := {}
deriving Inhabited

/-- A fetch, ready to run. -/
structure Fetch where
  url : Url
  method : String
  header : Header
  body : Option (List Nat)
  timeout : Int
  maxBody : Nat
  name : String
  logger : Log.Logger

namespace Fetch

/-- The body limit when none is given: 10 MiB. -/
def defaultMaxBody : Nat := 10 * 1024 * 1024

/-- Make a fetch for a URL. -/
def make (raw : String) (o : FetchOptions) : Except Fault Fetch := do
  Validation.notEmpty "fetch" "url" raw
  let u ← match Url.parse raw with
    | .error e => throw (.invalid "fetch" "url" raw e.message "")
    | .ok u => pure u
  if u.scheme ≠ Url.ascii "http" && u.scheme ≠ Url.ascii "https" then
    throw (.invalid "fetch" "url" raw "scheme must be http or https" "")
  Validation.nonNegativeDuration "fetch" "timeout" o.timeout
  let name := if o.name = "" then "fetch" else o.name
  return {
    url := u
    method := if o.method = "" then "GET" else o.method
    header := o.headers.foldl (fun h (k, v) => h.add k v) {}
    body := o.body
    timeout := o.timeout
    maxBody := if o.maxBody > 0 then o.maxBody.toNat else defaultMaxBody
    name := name
    logger := o.logger.withFields
      [Log.text "component" "fetch", Log.text "fetch" name, Log.text "url" u.redacted] }

end Fetch

/-- The outcome of a completed fetch. -/
structure FetchOutcome where
  result : FetchResult
  status : Int
  header : Header
  body : List Nat
  fault : Option Fault

namespace FetchOutcome

/-- The outcome of a fault: a timeout when the fault reports one or the deadline has passed, its
fault made to match the timeout sentinel; otherwise a failure. -/
def ofFailure (expired : Bool) (f : Exchange.Failure) : FetchOutcome :=
  if f.timedOut || expired then
    let fault := if f.fault.finds .timeout then f.fault
      else .group (Sentinel.timeout.message ++ ": " ++ f.fault.message) [.sentinel .timeout, f.fault]
    ⟨.timeout, 0, {}, [], some fault⟩
  else ⟨.failure, 0, {}, [], some f.fault⟩

end FetchOutcome

namespace Fetch

/-- A pool after Run's TrySubmit, its call run alone until it returns. The fetch's task returns
no fault. -/
def offered (p : PoolState) : PoolState := p.steps (Pool.offer p .succeed)

end Fetch

/-- A pool a fetch's job is tried on. Made from a checked configuration and moved by `before`, it
is the pool Run finds; after Run's TrySubmit returns, the pool's goroutines take the steps
`after`, which leave it done. -/
structure PoolRun where
  config : PoolConfig
  positive : 0 < config.workers
  before : List Pool.Act
  after : List Pool.Act
  finished : ((Fetch.offered ((PoolState.start config).steps before)).steps after).done = true

namespace PoolRun

variable (r : PoolRun)

/-- The pool Run finds. -/
def found : PoolState := (PoolState.start r.config).steps r.before

/-- The number of Run's call, which is also the number of its task. -/
def task : Nat := r.found.calls.length

/-- The pool once it is done. -/
def final : PoolState := (Fetch.offered r.found).steps r.after

end PoolRun

/-- How the job of a fetch is started. -/
inductive Launch where
  /-- A task of its own. -/
  | task
  | pool (r : PoolRun)
deriving Inhabited

namespace Launch

/-- How many times the job runs: once as a task of its own; in a pool, as many times as its
workers started the task of Run's call by the time the pool is done. -/
def runs : Launch → Nat
  | .task => 1
  | .pool r => r.final.executed.count r.task

/-- The context the job is given: the background for a task of its own, and in a pool one with
the pool's task timeout. -/
def context : Launch → Context
  | .task => .background
  | .pool r => Context.background.within r.config.taskTimeout

end Launch

/-- What surrounds a run: the transport's replies, how the job starts, whether a controller is
given and what its dispatch answers, whether it is run a second time, and the registry. -/
structure FetchSetting where
  /-- The reply of the transport to each request, by number. -/
  replies : Nat → Exchange.Reply
  launch : Launch
  /-- Whether a controller is given at all. -/
  controller : Bool
  /-- What the controller's dispatch answers: whether the receiver still listens. -/
  dispatch : Bool
  /-- Whether the fetch is run a second time. -/
  twice : Bool
  metrics : Option Metrics.Registry

/-- What a run of a fetch did. -/
structure FetchSession where
  run : Except Fault Unit
  /-- The result of the second run, when there was one. -/
  second : Option (Except Fault Unit)
  /-- The outcome, once the job has published it: what `Result()` and the other accessors read. -/
  outcome : Option FetchOutcome
  /-- Whether Done is closed. -/
  done : Bool
  /-- The requests the transport received, in order. -/
  sent : List Exchange.Sent
  dispatches : Nat
  releases : Nat
  /-- The log lines written. -/
  lines : List Json
  metrics : Option Metrics.Registry

/-- What others can see the job of a fetch do. -/
inductive FetchEffect where
  /-- The transport receives a request. -/
  | send (r : Exchange.Sent)
  /-- A line is logged. -/
  | log (line : Json)
  /-- The outcome is published. -/
  | publish (o : FetchOutcome)
  /-- Done is closed. -/
  | close
  /-- A counter goes up by one. -/
  | count (family : Metrics.Family) (labels : List String)
  /-- The controller's dispatch is called. -/
  | dispatch
  /-- The controller is released. -/
  | release

namespace FetchSession

/-- The session after an effect. -/
def apply (s : FetchSession) : FetchEffect → FetchSession
  | .send r => { s with sent := s.sent ++ [r] }
  | .log j => { s with lines := s.lines ++ [j] }
  | .publish o => { s with outcome := some o }
  | .close => { s with done := true }
  | .count fam vs => { s with metrics := s.metrics.map (·.inc fam vs) }
  | .dispatch => { s with dispatches := s.dispatches + 1 }
  | .release => { s with releases := s.releases + 1 }

@[simp] theorem apply_run (s : FetchSession) (e : FetchEffect) : (s.apply e).run = s.run := by
  cases e <;> rfl

@[simp] theorem apply_second (s : FetchSession) (e : FetchEffect) :
    (s.apply e).second = s.second := by
  cases e <;> rfl

@[simp] theorem foldl_apply_run (s : FetchSession) (es : List FetchEffect) :
    (es.foldl apply s).run = s.run := by
  induction es generalizing s with
  | nil => rfl
  | cons e es ih => rw [List.foldl_cons, ih, apply_run]

@[simp] theorem foldl_apply_second (s : FetchSession) (es : List FetchEffect) :
    (es.foldl apply s).second = s.second := by
  induction es generalizing s with
  | nil => rfl
  | cons e es ih => rw [List.foldl_cons, ih, apply_second]

end FetchSession

namespace Fetch

/-- Why a pool refuses the job, if it does: the fault Run's TrySubmit returned, as an operation
of the fetch. -/
def refusal (f : Fetch) : Launch → Option Fault
  | .task => none
  | .pool r =>
    match (offered r.found).result r.task with
    | some (.error e) => some (.operation "fetch" "run" (some e) f.name)
    | _ => none

/-- The fault of a second run. -/
def twiceFault (f : Fetch) : Fault := .wrapped ("fetch " ++ f.name ++ ": run: ") "" (.sentinel .alreadyRunning)

/-- The job, given a context: the requests sent, the lines logged on the way and the outcome. -/
def perform (f : Fetch) (parent : Context) (replies : Nat → Exchange.Reply) :
    List Exchange.Sent × List Json × FetchOutcome :=
  match Exchange.Request.make f.method f.url.text f.header f.body with
  | .error e => ([], [], ⟨.failure, 0, {}, [], some e⟩)
  | .ok r =>
    let lines := (f.logger.line? .debug "sending request" [Log.text "method" f.method]).toList
    let expired := (parent.within f.timeout).isTimedOut
    let (sent, res) := Exchange.run replies r
    let outcome := match res with
      | .error fl => FetchOutcome.ofFailure expired fl
      | .ok resp =>
        match resp.read f.maxBody with
        | .error fl => FetchOutcome.ofFailure expired fl
        | .ok body => ⟨.success, resp.status, resp.header, body, none⟩
    (sent, lines, outcome)

/-- The line that reports an outcome. -/
def completedLine (f : Fetch) (o : FetchOutcome) : Option Json :=
  let faultFields := match o.fault with
    | some e => [Log.err e.message]
    | none => []
  f.logger.line? .debug "fetch completed"
    ([Log.text "result" o.result.name, ("status", .int o.status)] ++ faultFields ++
      [("retryable", .flag ((o.fault.map Fault.retryable).getD false))])

/-- The job of a fetch that was run, with a controller whose dispatch answers `answer`: it logs
and sends the request and reads the reply, publishes the outcome, closes Done, counts and logs the
completion, dispatches, logs when the receiver has died, releases the controller and counts the
provider destroyed. -/
def job (f : Fetch) (parent : Context) (replies : Nat → Exchange.Reply) (answer : Bool) :
    List FetchEffect :=
  let (sent, lines, o) := f.perform parent replies
  let dropped :=
    if answer then none else f.logger.line? .debug "receiver has died, dropping fetch result" []
  lines.map .log ++ sent.map .send ++
    [.publish o, .close, .count .fetchResults [f.name, o.result.name]] ++
    (f.completedLine o).toList.map .log ++ [.dispatch] ++ dropped.toList.map .log ++
    [.release, .count .providersDestroyed ["fetch", "completed"]]

/-- Run a fetch in a setting. A Run that succeeds leaves what its job does each time it runs. -/
def start (f : Fetch) (s : FetchSetting) : FetchSession :=
  let first : Except Fault Unit :=
    if !s.controller then .error (Validation.missing "fetch" "dispatch_controller")
    else match f.refusal s.launch with
      | some e => .error e
      | none => .ok ()
  let second : Option (Except Fault Unit) :=
    if !s.twice then none
    else if !s.controller then some (.error (Validation.missing "fetch" "dispatch_controller"))
    else some (.error f.twiceFault)
  let idle : FetchSession := ⟨first, second, none, false, [], 0, 0, [], s.metrics⟩
  match first with
  | .error _ => idle
  | .ok () =>
    (List.replicate s.launch.runs (f.job s.launch.context s.replies s.dispatch)).flatten.foldl
      FetchSession.apply idle

end Fetch

end HostDispatch
