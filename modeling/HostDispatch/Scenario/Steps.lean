import HostDispatch.Scenario.Tasks
import HostDispatch.Scenario.Delivery
import HostDispatch.Request.Field

/-!
# Scenario steps that run no callbacks

The steps of a scenario that make, inspect or change things without running any callback: making
continuations and arming, canceling and destroying; reading the clock; making timers, cron tasks,
executions and publishers; closing and tracking promises; reading metrics. Each answers a JSON
result; a refused operation answers its fault.
-/

namespace HostDispatch

namespace Scenario

/-- The continuation id a step names by slot in `c`, or none for `null`. -/
def contArg (s : Json) : Sim (Option Nat) := do
  if Request.isNull s "c" then return none
  let i ← read (Request.int s "c")
  let c ← slot (← get).conts "continuation" i
  return some c.id

/-- The action a step names by slot in `a`, or none for `null` or a failed arming. -/
def actionArg (s : Json) : Sim (Option (Nat × Kind)) := do
  if Request.isNull s "a" then return none
  let i ← read (Request.int s "a")
  slot (← get).actions "action" i

/-- The provider slot a step names in `p`. -/
def providerArg (s : Json) : Sim Nat := do
  let i ← read (Request.int s "p")
  let _ ← slot (← get).providers "provider" i
  return i.toNat

/-- The execution slot a step names in `q`. -/
def executionArg (s : Json) : Sim (Nat × Execution) := do
  let i ← read (Request.int s "q")
  let e ← slot (← get).executions "promise" i
  return (i.toNat, e)

/-- The publisher slot a step names in `r`. -/
def publisherArg (s : Json) : Sim Nat := do
  let i ← read (Request.int s "r")
  let _ ← slot (← get).publishers "redis receiver" i
  return i.toNat

/-- The panic of using something that is not there. -/
def nilPanic {α : Type} : Sim α := panic "runtime error: invalid memory address or nil pointer dereference"

/-- The gate described by a `faulty` object: a missing or negative count never refuses. -/
def gateArg (s : Json) : Sim Gate := do
  match ← read (Request.obj? s "faulty") with
  | none => return {}
  | some g =>
    let limit (key : String) : Sim (Option Nat) := do
      match ← read (Request.int? g key) with
      | some n => return if n < 0 then none else some n.toNat
      | none => return none
    return { onceLimit := ← limit "once", everyLimit := ← limit "every",
             contLimit := ← limit "cont" }

/-- A list of truth values. -/
def boolList (key : String) (xs : List Json) : Sim (List Bool) :=
  xs.mapM fun
    | .bool b => pure b
    | _ => badInput (Request.fieldFault key "not a bool")

/-- A list of integers. -/
def intList (key : String) (xs : List Json) : Sim (List Int) :=
  xs.mapM fun x => read (Request.int (.obj [(key, x)]) key)

/-- A scripted reply of a publication. -/
def replyArg (j : Json) : Sim Reply := do
  match ← read (Request.str? j "error") with
  | some m => return .failure m
  | none =>
    if ← read (Request.bool j "nil") then return .nothing
    match ← read (Request.int? j "n") with
    | some n => return .subscribers n
    | none => return .subscribers 0

/-- The counters of the clock. -/
def statsJson (st : ClockStats) : Json :=
  .obj [("scheduled_once", .nat st.scheduledOnce), ("scheduled_every", .nat st.scheduledEvery),
        ("canceled", .nat st.canceled), ("fired", .nat st.fired),
        ("cancel_misuse", .nat st.cancelMisuse), ("continuations", .nat st.continuations),
        ("destroyed", .nat st.destroyed)]

/-- The size and state of a tracker. -/
def trackerJson (t : Tracker) : Json := .obj [("len", .nat t.size), ("closed", .bool t.closed)]

/-- Make a scripted continuation. -/
def newCont (s : Json) : Sim Json := do
  if ← read (Request.bool s "nil_handler") then
    return Answer.fault (Validation.missing "hostsched" "handler")
  let script ← read (Request.list s "script")
  let w ← get
  let (id, k) := w.clock.newContinuation
  let i := w.conts.size
  set { w with clock := k, owners := w.owners.push (.script i),
               conts := w.conts.push { id := id, script := script } }
  return .obj [("c", .nat i), ("id", .nat id)]

/-- Arm a one-shot or repeating action; the action takes a slot even when arming fails. -/
def arm (kind : Kind) (s : Json) : Sim Json := do
  let c ← contArg s
  let d ← read (Request.int s "d")
  let w ← get
  let r := match kind with
    | .once => w.clock.scheduleOnce c d
    | .every => w.clock.scheduleEvery c d
  let j := w.actions.size
  match r with
  | .ok (id, k) =>
    set { w with clock := k, actions := w.actions.push (some (id, kind)) }
    return .obj [("a", .nat j), ("id", .nat id), ("kind", .str kind.name)]
  | .error e =>
    set { w with actions := w.actions.push none }
    return Answer.fault e

/-- Make a timer. -/
def newTimer (s : Json) : Sim Json := do
  let mode ← read (Request.int s "mode")
  let period ← read (Request.int s "period")
  let initial ← read (Request.int s "initial")
  let name ← read (Request.str s "name")
  let nilPort ← read (Request.bool s "nil_port")
  let gate ← gateArg s
  match TimerTask.check (!nilPort) mode period initial with
  | .error e => return Answer.fault e
  | .ok m =>
    let p := (← get).providers.size
    let (r, g) ← gatedContinuation gate (.timer p)
    match r with
    | .error e => return Answer.fault (.operation "timer" "new" (some e) "")
    | .ok id =>
      let w ← get
      let t := TimerTask.make name m period initial id w.logger
      set { w with providers := w.providers.push { task := .timer t, gate := g } }
      return .obj [("p", .nat p)]

/-- Make a cron task; the zone is loaded first. -/
def newCron (s : Json) : Sim Json := do
  let expr ← read (Request.str s "expr")
  let loc ← read (Request.str s "loc")
  let name ← read (Request.str s "name")
  let nilPort ← read (Request.bool s "nil_port")
  let gate ← gateArg s
  match Zone.load loc with
  | .error e => return Answer.fault (.plain e)
  | .ok zone =>
    if nilPort then return Answer.fault (Validation.missing "crontask" "port")
    match parseCron expr with
    | .error (.inl f) => return Answer.fault f
    | .error (.inr m) => panic m
    | .ok sched =>
      let p := (← get).providers.size
      let (r, g) ← gatedContinuation gate (.cron p)
      match r with
      | .error e => return Answer.fault (.operation "crontask" "new" (some e) "")
      | .ok id =>
        let w ← get
        let t := CronTask.make name expr sched zone id w.logger
        set { w with providers := w.providers.push { task := .cron t, gate := g } }
        return .obj [("p", .nat p)]

/-- Run a provider, with a new stand-in controller when `fake` is given. -/
def runStub (s : Json) : Sim Json := do
  let p ← providerArg s
  match ← read (Request.obj? s "fake") with
  | none => return Answer.okOr (← runProvider p none)
  | some fk =>
    let answers ← boolList "answers" (← read (Request.list fk "answers"))
    let script ← read (Request.list fk "script")
    let f := (← get).stubs.size
    modify fun w => { w with stubs := w.stubs.push { answers := answers, script := script } }
    match ← runProvider p (some (.stub f)) with
    | .ok () => return .obj [("fake", .nat f)]
    | .error e => return Answer.fault e

/-- Give an execution its slot. -/
def pushExecution (e : Execution) : Sim Unit :=
  modify fun w => { w with executions := w.executions.push e }

/-- Execute provider `p` for a receiver, the execution taking slot `q`: make a controller for the
pair and run the provider with it. A run that succeeds gives the promise; a run that fails closes
the promise and releases the provider's reference, and its fault is answered as the execution's. -/
def launch (q p : Nat) (receiver : Receiver) (name : String) (locked : Bool) : Sim Json := do
  let w ← get
  let k := w.controllers.size
  let c := Controller.make name receiver p locked w.logger
  set { w with controllers := w.controllers.push c }
  match ← runProvider p (some (.made k)) with
  | .ok () =>
    pushExecution { promise := some { controller := k }, controller := some k }
    return .obj [("q", .nat q)]
  | .error e =>
    let _ ← closePromise { controller := k }
    release (.made k)
    pushExecution { controller := some k }
    return Answer.fault (.operation "async" "execute" (some e) ("controller=" ++ c.name))

/-- Execute a provider with a scripted receiver or a publisher; the execution takes a slot even
when it fails. -/
def execute (s : Json) : Sim Json := do
  let q := (← get).executions.size
  if ← read (Request.bool s "nil_receiver") then
    pushExecution {}
    return Answer.fault (Validation.missing "async" "receiver")
  if Request.isNull s "p" then
    pushExecution {}
    return Answer.fault (Validation.missing "async" "provider")
  let p ← providerArg s
  let receiver ← match ← read (Request.int? s "redis") with
    | some r =>
      let _ ← slot (← get).publishers "redis receiver" r
      pure (Receiver.publisher r.toNat)
    | none => pure (Receiver.script q (← read (Request.list s "script")))
  let name ← read (Request.str s "name")
  let locked ← read (Request.bool s "mutex")
  launch q p receiver name locked

/-- Make a publisher. -/
def newPublisher (s : Json) : Sim Json := do
  let channel ← read (Request.str s "channel")
  let replies ← (← read (Request.list s "replies")).mapM replyArg
  let failures ← intList "encode_errors" (← read (Request.list s "encode_errors"))
  let keep ← read (Request.bool s "keep_unheard")
  let timeout ← read (Request.int? s "timeout")
  let nilClient ← read (Request.bool s "nil_client")
  let nilEncode ← read (Request.bool s "nil_encode")
  let w ← get
  match Publisher.make (!nilClient) channel (!nilEncode) (timeout.getD Publisher.defaultTimeout)
      replies failures keep w.logger with
  | .error e => return Answer.fault e
  | .ok v =>
    let r := w.publishers.size
    set { w with publishers := w.publishers.push v }
    return .obj [("r", .nat r), ("channel", .str channel)]

/-- The state reported for a publisher. -/
def publisherJson (v : Publisher) : Json :=
  .obj [("channel", .str v.channel), ("published", .nat v.published), ("failed", .nat v.failed),
        ("len", .nat v.tracker.size), ("closed", .bool v.tracker.closed),
        ("messages", .arr (v.messages.toList.map fun (c, p) =>
          .obj [("channel", .str c), ("payload", .str p)]))]

/-- Track the promise of an execution slot in a tracker; returns the tracker after it. A failed
execution has no promise and is not tracked; a closed tracker closes the promise at once. -/
def trackIn (t : Tracker) (q : Nat) (e : Execution) : Sim Tracker := do
  match e.promise with
  | none => return t
  | some _ =>
    let (t, closeNow) := t.track q
    if closeNow then closeExecution q
    return t

/-- A step that runs no callback, by name. -/
def plainStep (name : String) (s : Json) : Sim Json := do
  match name with
  | "new_cont" => newCont s
  | "once" => arm .once s
  | "every" => arm .every s
  | "cancel" =>
    let a ← actionArg s
    let r ← cancelAction (a.map (·.1))
    return Answer.okOr r
  | "destroy" =>
    match ← contArg s with
    | none => return Answer.ok
    | some c =>
      destroyCont (some c)
      return .obj [("destroyed", .bool ((← get).clock.isDestroyed c))]
  | "cont_info" =>
    match ← contArg s with
    | none => return .obj [("id", .null), ("destroyed", .null)]
    | some c => return .obj [("id", .nat c), ("destroyed", .bool ((← get).clock.isDestroyed c))]
  | "action_info" =>
    match ← actionArg s with
    | none => return .obj [("id", .null), ("kind", .null)]
    | some (id, kind) => return .obj [("id", .nat id), ("kind", .str kind.name)]
  | "now" => return .obj [("now", stamp (← now))]
  | "elapsed" =>
    let t ← read (Request.time? s "t")
    return .obj [("elapsed", .int ((← get).clock.elapsed (t.getD Time.zero)))]
  | "pending" => return .obj [("pending", .nat (← get).clock.pending)]
  | "next_due" => return .obj [("next_due", Json.ofOption stamp (← get).clock.nextDue)]
  | "stats" => return statsJson (← get).clock.stats
  | "new_timer" => newTimer s
  | "new_cron" => newCron s
  | "provider_info" =>
    let p ← providerArg s
    match (← provider p).task with
    | .timer t => return t.info
    | .cron t => return t.info
  | "destroy_provider" =>
    let p ← providerArg s
    destroyProvider p "owner"
    return .obj [("destroyed", .bool (← providerDestroyed p))]
  | "run" => runStub s
  | "fake_info" =>
    let f ← read (Request.int s "f")
    let st ← slot (← get).stubs "fake" f
    return .obj [("dispatches", .nat st.dispatches), ("releases", .nat st.releases)]
  | "execute" => execute s
  | "close_promise" =>
    let (q, e) ← executionArg s
    match e.promise with
    | none => nilPanic
    | some pr =>
      closeExecution q
      return .obj [("alive", .bool (← controller pr.controller).live)]
  | "promise_info" =>
    let (_, e) ← executionArg s
    let alive ← match e.promise with
      | none => pure Json.null
      | some pr => do pure (Json.bool (← controller pr.controller).live)
    match e.controller with
    | none => return .obj [("alive", alive), ("ctrl_alive", .null), ("refs", .null)]
    | some k =>
      let c ← controller k
      return .obj [("alive", alive), ("ctrl_alive", .bool c.live), ("refs", .int c.refs)]
  | "ctrl_release" =>
    let (_, e) ← executionArg s
    match e.controller with
    | none => nilPanic
    | some k =>
      release (.made k)
      return Answer.ok
  | "track" =>
    if Request.isNull s "q" then return trackerJson (← get).tracker
    let (q, e) ← executionArg s
    let t ← trackIn (← get).tracker q e
    modify fun w => { w with tracker := t }
    return trackerJson (← get).tracker
  | "tracker_close" =>
    let (t, qs) := (← get).tracker.close
    modify fun w => { w with tracker := t }
    closeAll qs
    return trackerJson (← get).tracker
  | "tracker_info" => return trackerJson (← get).tracker
  | "new_redis" => newPublisher s
  | "redis_track" =>
    let r ← publisherArg s
    let (q, e) ← executionArg s
    let t ← trackIn (← publisher r).tracker q e
    setPublisher r { (← publisher r) with tracker := t }
    return trackerJson (← publisher r).tracker
  | "redis_info" =>
    let r ← publisherArg s
    return publisherJson (← publisher r)
  | "metrics" =>
    let lines := ((← get).metrics.map (·.lines)).getD []
    return .obj [("metrics", Answer.lines lines)]
  | "panic" =>
    let m ← read (Request.str s "message")
    panic (if m = "" then "scripted panic" else m)
  | other => badInput ("unknown step " ++ Text.quote other)

end Scenario

end HostDispatch
