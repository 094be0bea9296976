import HostDispatch.Scenario.Steps
import HostDispatch.Request.Observe

/-!
# Running a scenario

The steps that run callbacks, and the scenario as a whole. Advancing the clock fires the due
actions in order and runs their handlers: a scripted continuation records an event and runs its
script, a timer or cron task dispatches to its controller. Dispatching to a stand-in records an
event and runs its script; dispatching through a made controller calls its receiver. A script step
runs on every call of its callback, or only on the call its `on` names, and records its result as
an event after the events it caused.

Advancing recovers a panic that unwinds out of the clock, and answers it as the step's result: the
clock then stays marked as advancing, so every later advance panics too. Callbacks can nest, so
every function here takes fuel, which bounds the depth of nesting and the firings of one advance.
-/

namespace HostDispatch

namespace Scenario

/-- Where a step runs: at the top, or in the callback of a continuation, a receiver or a stand-in. -/
inductive Place where
  | top
  | cont (slot : Nat)
  | recv (promise : Nat)
  | stub (index : Nat)

/-- How events name a place. -/
def Place.text : Place → String
  | .top => ""
  | .cont i => "cont " ++ toString i
  | .recv q => "recv " ++ toString q
  | .stub f => "fake " ++ toString f

/-- The panic of running out of fuel. -/
def exhausted {α : Type} : Sim α := panic "runtime: goroutine stack exceeds 1000000000-byte limit"

/-- Whether a script step runs on a call: it has no `on`, or its `on` is that call. -/
def runsOn (s : Json) (call : Nat) : Sim Bool := do
  match ← read (Request.int? s "on") with
  | none => return true
  | some k => return k = call

mutual

/-- Run one step and answer its result. -/
def runStep : Nat → Json → Sim Json
  | 0, _ => exhausted
  | n + 1, s => do
    let name ← read (Request.str s "do")
    match name with
    | "advance" =>
      let d ← read (Request.int s "d")
      let target := (← now).add d
      advanceStep n target
    | "advance_to" =>
      let t ← read (Request.time? s "t")
      advanceStep n (t.getD Time.zero)
    | "ctrl_dispatch" =>
      let (_, e) ← executionArg s
      match e.controller with
      | none => nilPanic
      | some k =>
        let delivered ← dispatch n (.made k)
        return .obj [("delivered", .bool delivered)]
    | other => plainStep other s

/-- Advance to a target, answering a panic that unwinds out of the clock as the result. -/
def advanceStep : Nat → Time → Sim Json
  | 0, _ => exhausted
  | n + 1, target =>
    tryCatch (do
        let delivered ← advanceTo n target
        return .obj [("delivered", .nat delivered), ("now", stamp (← now))])
      fun
        | .panic m => pure (Answer.panic m)
        | other => throw other

/-- Run the steps of a script on a call of its callback, recording each result. -/
def runScript : Nat → Place → List Json → Nat → Sim Unit
  | 0, _, _, _ => exhausted
  | n + 1, place, steps, call =>
    steps.forM fun s => do
      if ← runsOn s call then
        let result ← runStep n s
        let name ← read (Request.str s "do")
        emit (.obj [("in", .str place.text), ("do", .str name), ("result", result)])

/-- Advance the clock to a target: refused while an advance runs. Answers the handlers run. -/
def advanceTo : Nat → Time → Sim Nat
  | 0, _ => exhausted
  | n + 1, target => do
    match (← get).clock.beginAdvance with
    | none => panic Clock.reentryMessage
    | some k =>
      modifyClock fun _ => k
      firings n target 0

/-- Fire the actions due by the target one at a time, then move the clock to the target. -/
def firings : Nat → Time → Nat → Sim Nat
  | 0, _, _ => exhausted
  | n + 1, target, delivered => do
    match (← get).clock.takeDue target with
    | none =>
      modifyClock (·.finishAdvance target)
      return delivered
    | some (f, k) =>
      modifyClock fun _ => k
      let ran ← deliver n f
      firings n target (if ran then delivered + 1 else delivered)

/-- Deliver a firing to its continuation's handler, unless the continuation is destroyed. -/
def deliver : Nat → Firing → Sim Bool
  | 0, _ => exhausted
  | n + 1, f => do
    let w ← get
    if w.clock.isDestroyed f.cont then return false
    match w.owners.getD (f.cont - 1) default with
    | .script i =>
      let c ← slot w.conts "continuation" i
      let runs := c.runs + 1
      modify fun w => { w with conts := w.conts.set! i { c with runs := runs } }
      emit (.obj [("c", .nat i), ("ev", .str f.kind.event.name), ("n", .nat runs),
                  ("now", stamp (← now))])
      runScript n (.cont i) c.script runs
    | .timer p => fireTimer (dispatch n) p
    | .cron p => fireCron (dispatch n) p
    return true

/-- Dispatch a completion to a controller. -/
def dispatch : Nat → ControllerRef → Sim Bool
  | 0, _ => exhausted
  | n + 1, .stub f => do
    let st ← slot (← get).stubs "fake" f
    let k := st.dispatches + 1
    modify fun w => { w with stubs := w.stubs.set! f { st with dispatches := k } }
    emit (.obj [("fake", .nat f), ("n", .nat k), ("now", stamp (← now))])
    runScript n (.stub f) st.script k
    return st.answer k
  | n + 1, .made k => dispatchMade (receive n) k

/-- Call the receiver of a made controller. -/
def receive : Nat → Nat → Sim Unit
  | 0, _ => exhausted
  | n + 1, k => do
    let c ← controller k
    match c.receiver with
    | .script q steps =>
      let runs := c.received + 1
      setController k { c with received := runs }
      emit (.obj [("recv", .nat q), ("p", .nat c.provider), ("n", .nat runs),
                  ("now", stamp (← now))])
      runScript n (.recv q) steps runs
    | .publisher r => publish r

end

/-- The fuel of one top-level step. -/
def stepFuel : Nat := 4000000

/-- Run a top-level step and answer it with the events and log lines it caused. -/
def topStep (s : Json) : Sim Json := do
  modify fun w => { w with events := #[], lines := #[] }
  let result ← runStep stepFuel s
  let w ← get
  let extra := (if w.events.isEmpty then [] else [("events", Json.arr w.events.toList)]) ++
    (if w.lines.isEmpty then [] else [("logs", Json.arr w.lines.toList)])
  return .obj ([("result", result)] ++ extra)

/-- The world a scenario request starts from: the clock at `start` (the Unix epoch when absent),
a registry when `metrics` is given, a logger when `log` is given. A registry that cannot be built
is a panic. -/
def start (req : Json) : Except Interrupt World := do
  let lift {α : Type} (r : Except String α) : Except Interrupt α := r.mapError .badInput
  let t ← lift (Request.time? req "start")
  let registry ← match ← lift (Request.registryArg req) with
    | none => pure none
    | some (.ok r) => pure (some r)
    | some (.error e) => throw (.panic e)
  let logger ← lift (Request.loggerArg req)
  pure { clock := Clock.start (t.getD Time.zero), metrics := registry, logger := logger }

/-- The answer to a scenario request: one entry per step, or the interrupt that ended it. -/
def answer (req : Json) : Json :=
  let outcome : Except Interrupt (List Json) := do
    let w ← start req
    let steps ← (Request.list req "steps").mapError Interrupt.badInput
    match (steps.mapM topStep).run w with
    | .ok rs _ => pure rs
    | .error e _ => throw e
  match outcome with
  | .ok rs => .obj [("steps", .arr rs)]
  | .error (.panic m) => Answer.panic m
  | .error (.badInput m) => Answer.badInput m

end Scenario

end HostDispatch
