import HostDispatch.Scenario.World

/-!
# Timers and cron tasks at work

Running, firing and destroying the providers of a scenario. A firing hands the completion to the
provider's controller through `dispatch`, which the caller supplies, since a dispatch may run
scripts that reach back into the scenario.

A timer's first action is a one-shot (for one-off timers, and for periodic timers with an initial
delay) or at once the repeating action. The firing of the one-shot of a periodic timer arms the
repeating action. A cron task re-arms for its next activation before each dispatch. Either is
destroyed when its controller answers no, or by its owner; destruction cancels what is armed,
destroys the continuation and releases the controller, once.
-/

namespace HostDispatch

namespace Scenario

/-- The timer of a provider slot. -/
def timer (p : Nat) : Sim TimerTask := do
  match (← provider p).task with
  | .timer t => pure t
  | .cron _ => panic "runtime error: invalid memory address or nil pointer dereference"

/-- Replace the timer of a provider slot. -/
def setTimer (p : Nat) (t : TimerTask) : Sim Unit := do
  let v ← provider p
  setProvider p { v with task := .timer t }

/-- The cron task of a provider slot. -/
def cronTask (p : Nat) : Sim CronTask := do
  match (← provider p).task with
  | .cron t => pure t
  | .timer _ => panic "runtime error: invalid memory address or nil pointer dereference"

/-- Replace the cron task of a provider slot. -/
def setCronTask (p : Nat) (t : CronTask) : Sim Unit := do
  let v ← provider p
  setProvider p { v with task := .cron t }

/-- Cancel an action a provider armed, warning when the cancel is refused. -/
def cancelArmed (l : Log.Logger) (a : Nat) (withId : Bool) : Sim Unit := do
  match ← cancelAction (some a) with
  | .ok () => pure ()
  | .error e =>
    log l .warn "cancel failed"
      ((if withId then [("action", Log.Value.int a)] else []) ++ [Log.err e.message])

/-- Destroy a timer, once: cancel its actions, destroy its continuation, release its controller. -/
def destroyTimer (p : Nat) (reason : String) : Sim Unit := do
  let t ← timer p
  if t.destroyed then return
  setTimer p { t with destroyed := true, initialAction := none, periodicAction := none,
                      controller := none }
  if let some a := t.initialAction then
    log t.logger .debug "canceling initial timer action"
    cancelArmed t.logger a true
  if let some a := t.periodicAction then
    log t.logger .debug "canceling periodic timer action"
    cancelArmed t.logger a true
  log t.logger .debug "destroying continuation" [Log.text "reason" reason]
  destroyCont (some t.cont)
  if let some c := t.controller then release c
  count .providersDestroyed ["timer", reason]

/-- Run a timer with a controller (or none): arm its first action. -/
def runTimer (p : Nat) (ctrl : Option ControllerRef) : Sim (Except Fault Unit) := do
  let t ← timer p
  let some c := ctrl | return .error (Validation.missing "timer" "dispatch_controller")
  let pre := "timer " ++ t.name ++ ": run: "
  if t.destroyed then return .error (.wrapped pre "" (.sentinel .closed))
  if t.ran then return .error (.wrapped pre "" (.sentinel .alreadyRunning))
  setTimer p { t with ran := true, controller := some c }
  let r ← if t.startsOnce then do
      log t.logger .debug "scheduling initial/one-off event"
        [("delay", Log.Value.duration t.firstDelay)]
      let r ← gatedSchedule p t.cont .once t.firstDelay
      if let .ok a := r then setTimer p { (← timer p) with initialAction := some a }
      pure r
    else do
      log t.logger .debug "scheduling regular timer events" [("period", Log.Value.duration t.period)]
      let r ← gatedSchedule p t.cont .every t.period
      if let .ok a := r then setTimer p { (← timer p) with periodicAction := some a }
      pure r
  match r with
  | .ok _ => return .ok ()
  | .error e =>
    setTimer p { (← timer p) with controller := none }
    return .error (.operation "timer" "run" (some e) t.name)

/-- A firing of a timer: arm the repeating action after the first one-shot of a periodic timer,
then dispatch; a controller that answers no destroys the timer. -/
def fireTimer (dispatch : ControllerRef → Sim Bool) (p : Nat) : Sim Unit := do
  let t ← timer p
  if t.destroyed then return
  if t.initialAction.isSome then
    log t.logger .debug "received initial timer event"
    setTimer p { t with initialAction := none }
    if t.mode == .periodic then
      log t.logger .debug "scheduling periodic event now" [("period", Log.Value.duration t.period)]
      match ← gatedSchedule p t.cont .every t.period with
      | .ok a => setTimer p { (← timer p) with periodicAction := some a }
      | .error e =>
        log t.logger .error "failed to arm periodic event" [Log.err e.message]
        count .armFailures ["timer", t.name]
  let t ← timer p
  let some c := t.controller | return
  count .timerFirings [t.name, t.mode.name]
  if ← dispatch c then return
  log t.logger .debug "receiver has died, destroying timer"
  destroyTimer p "consumer_gone"

/-- Arm a cron task for its next activation after now, read in its zone. -/
def armCron (p : Nat) : Sim (Except Fault Unit) := do
  let t ← cronTask p
  let at_ := (← now).inZone t.zone
  let next := t.schedule.next at_
  if next.isZero then
    setCronTask p { t with next := Time.zero }
    log t.logger .warn "schedule has no future activation"
    return .ok ()
  match ← gatedSchedule p t.cont .once (next.sub at_) with
  | .error e => return .error e
  | .ok a =>
    setCronTask p { (← cronTask p) with pending := some a, next := next }
    log t.logger .debug "scheduled next activation" [("next", Log.Value.time next)]
    return .ok ()

/-- Destroy a cron task, once. -/
def destroyCron (p : Nat) (reason : String) : Sim Unit := do
  let t ← cronTask p
  if t.destroyed then return
  setCronTask p { t with destroyed := true, pending := none, controller := none, next := Time.zero }
  if let some a := t.pending then cancelArmed t.logger a false
  destroyCont (some t.cont)
  if let some c := t.controller then release c
  count .providersDestroyed ["crontask", reason]

/-- Run a cron task with a controller (or none): arm its first activation. -/
def runCron (p : Nat) (ctrl : Option ControllerRef) : Sim (Except Fault Unit) := do
  let t ← cronTask p
  let some c := ctrl | return .error (Validation.missing "crontask" "dispatch_controller")
  let pre := "crontask " ++ t.name ++ ": run: "
  if t.destroyed then return .error (.wrapped pre "" (.sentinel .closed))
  if t.ran then return .error (.wrapped pre "" (.sentinel .alreadyRunning))
  setCronTask p { t with ran := true, controller := some c }
  match ← armCron p with
  | .ok () => return .ok ()
  | .error e =>
    setCronTask p { (← cronTask p) with controller := none }
    return .error (.operation "crontask" "run" (some e) t.name)

/-- A firing of a cron task: re-arm, then dispatch; a controller that answers no destroys it. -/
def fireCron (dispatch : ControllerRef → Sim Bool) (p : Nat) : Sim Unit := do
  let t ← cronTask p
  if t.destroyed then return
  setCronTask p { t with pending := none, next := Time.zero }
  match ← armCron p with
  | .ok () => pure ()
  | .error e =>
    log t.logger .error "failed to arm next activation" [Log.err e.message]
    count .armFailures ["crontask", t.name]
  let t ← cronTask p
  let some c := t.controller | return
  count .timerFirings [t.name, "cron"]
  if ← dispatch c then return
  log t.logger .debug "receiver has died, destroying cron task"
  destroyCron p "consumer_gone"

/-- Run a provider with a controller (or none). -/
def runProvider (p : Nat) (ctrl : Option ControllerRef) : Sim (Except Fault Unit) := do
  match (← provider p).task with
  | .timer _ => runTimer p ctrl
  | .cron _ => runCron p ctrl

/-- Destroy a provider. -/
def destroyProvider (p : Nat) (reason : String) : Sim Unit := do
  match (← provider p).task with
  | .timer _ => destroyTimer p reason
  | .cron _ => destroyCron p reason

/-- Whether a provider is destroyed. -/
def providerDestroyed (p : Nat) : Sim Bool := do
  match (← provider p).task with
  | .timer t => pure t.destroyed
  | .cron t => pure t.destroyed

end Scenario

end HostDispatch
