import HostDispatch.Scheduler.Clock
import HostDispatch.Provider.Timer
import HostDispatch.Provider.CronTask
import HostDispatch.Publish.Publisher
import HostDispatch.Metrics.Registry
import HostDispatch.Answer

/-!
# The world of a scenario

A scenario drives one simulated clock and everything made on it: scripted continuations, actions,
timers and cron tasks, stand-in controllers, executions with their controllers and promises, one
tracker and publishers. Each kind of thing is numbered from 0 in the order it was made. Callbacks
record events, components write log lines and count metrics, all into the world.

Steps run in `Sim`, a state monad with faults that keeps the world reached when a fault is raised:
a panic that unwinds leaves behind every effect made before it, as it does when a program panics.
-/

namespace HostDispatch

namespace Scenario

/-- Why a scenario stops short of an answer. -/
inductive Interrupt where
  /-- A panic, with its message, unwinding to the nearest place that recovers it. -/
  | panic (message : String)
  /-- A request that cannot be read, which ends the whole scenario. -/
  | badInput (message : String)
deriving Inhabited

/-- Who handles the firings of a continuation. -/
inductive Owner where
  /-- The scripted continuation in this slot. -/
  | script (slot : Nat)
  | timer (provider : Nat)
  | cron (provider : Nat)
deriving Inhabited

/-- A scripted continuation: its id, its script and how often it has run. -/
structure ScriptCont where
  id : Nat
  script : List Json
  runs : Nat := 0
deriving Inhabited

/-- What a provider is. -/
inductive Task where
  | timer (t : TimerTask)
  | cron (t : CronTask)
deriving Inhabited

/-- A provider and the gate to its clock. -/
structure Provider where
  task : Task
  gate : Gate := {}
deriving Inhabited

/-- An execution: the promise it gave, if it succeeded, and the controller it made, if any. -/
structure Execution where
  promise : Option Promise := none
  controller : Option Nat := none
deriving Inhabited

/-- Everything a scenario has made, and what its current step has recorded. -/
structure World where
  clock : Clock
  /-- The owner of each continuation, the one with id `i + 1` at index `i`. -/
  owners : Array Owner := #[]
  conts : Array ScriptCont := #[]
  /-- Each action slot: the action's id and kind, or nothing for a failed arming. -/
  actions : Array (Option (Nat × Kind)) := #[]
  providers : Array Provider := #[]
  stubs : Array Stub := #[]
  controllers : Array Controller := #[]
  executions : Array Execution := #[]
  tracker : Tracker := {}
  publishers : Array Publisher := #[]
  metrics : Option Metrics.Registry := none
  logger : Log.Logger := {}
  events : Array Json := #[]
  lines : Array Json := #[]
deriving Inhabited

/-- The monad of scenario steps. -/
abbrev Sim := EStateM Interrupt World

/-- Raise a panic. -/
def panic {α : Type} (message : String) : Sim α := throw (.panic message)

/-- Give up on an unreadable request. -/
def badInput {α : Type} (message : String) : Sim α := throw (.badInput message)

/-- Read a request field, giving up when it cannot be read. -/
def read {α : Type} (r : Except String α) : Sim α :=
  match r with
  | .ok a => pure a
  | .error e => badInput e

/-- Record an event. -/
def emit (e : Json) : Sim Unit := modify fun w => { w with events := w.events.push e }

/-- Write a record through a logger. -/
def log (l : Log.Logger) (s : Severity) (message : String) (fs : List Log.Field := []) :
    Sim Unit :=
  match l.line? s message fs with
  | some line => modify fun w => { w with lines := w.lines.push line }
  | none => pure ()

/-- Count one in a metric series, if the scenario keeps metrics. -/
def count (f : Metrics.Family) (values : List String) : Sim Unit :=
  modify fun w => { w with metrics := w.metrics.map (·.inc f values) }

/-- The clock's time. -/
def now : Sim Time := do pure (← get).clock.now

/-- Change the clock. -/
def modifyClock (f : Clock → Clock) : Sim Unit := modify fun w => { w with clock := f w.clock }

/-- The text of a time in an event or answer. -/
def stamp (t : Time) : Json := .str t.render

/-- Look up a slot by index, giving up with a message naming the kind of slot. -/
def slot {α : Type} [Inhabited α] (xs : Array α) (what : String) (i : Int) : Sim α :=
  if h : 0 ≤ i ∧ i.toNat < xs.size then pure xs[i.toNat]
  else badInput ("no " ++ what ++ " " ++ toString i)

/-- The provider with an index. -/
def provider (p : Nat) : Sim Provider := do slot (← get).providers "provider" p

/-- Replace a provider. -/
def setProvider (p : Nat) (v : Provider) : Sim Unit :=
  modify fun w => { w with providers := w.providers.set! p v }

/-- The controller with an index. -/
def controller (k : Nat) : Sim Controller := do slot (← get).controllers "controller" k

/-- Replace a controller. -/
def setController (k : Nat) (c : Controller) : Sim Unit :=
  modify fun w => { w with controllers := w.controllers.set! k c }

/-- The publisher with an index. -/
def publisher (r : Nat) : Sim Publisher := do slot (← get).publishers "redis receiver" r

/-- Replace a publisher. -/
def setPublisher (r : Nat) (v : Publisher) : Sim Unit :=
  modify fun w => { w with publishers := w.publishers.set! r v }

/-- The refusal of a gated call. -/
def closed : Fault := .sentinel .closed

/-- Make a continuation for a provider through its gate. -/
def gatedContinuation (gate : Gate) (owner : Owner) : Sim (Except Fault Nat × Gate) := do
  let g := { gate with contCalls := gate.contCalls + 1 }
  if !Gate.admits gate.contLimit gate.contCalls then return (.error closed, g)
  let w ← get
  let (id, k) := w.clock.newContinuation
  set { w with clock := k, owners := w.owners.push owner }
  return (.ok id, g)

/-- Arm an action for a provider's continuation through the provider's gate. -/
def gatedSchedule (p : Nat) (cont : Nat) (kind : Kind) (d : Int) : Sim (Except Fault Nat) := do
  let v ← provider p
  let g := v.gate
  let (allowed, g) := match kind with
    | .once => (Gate.admits g.onceLimit g.onceCalls, { g with onceCalls := g.onceCalls + 1 })
    | .every => (Gate.admits g.everyLimit g.everyCalls, { g with everyCalls := g.everyCalls + 1 })
  setProvider p { v with gate := g }
  if !allowed then return .error closed
  let w ← get
  let r := match kind with
    | .once => w.clock.scheduleOnce (some cont) d
    | .every => w.clock.scheduleEvery (some cont) d
  match r with
  | .error e => return .error e
  | .ok (id, k) =>
    set { w with clock := k }
    return .ok id

/-- Cancel an action. -/
def cancelAction (a : Option Nat) : Sim (Except Fault Unit) := do
  let w ← get
  let (r, k) := w.clock.cancel a
  set { w with clock := k }
  return r.map fun _ => ()

/-- Destroy a continuation. -/
def destroyCont (c : Option Nat) : Sim Unit := modifyClock (·.destroyContinuation c)

/-- Release a controller: a stand-in counts it, a made controller drops a reference. -/
def release (ref : ControllerRef) : Sim Unit := do
  match ref with
  | .stub f =>
    let w ← get
    let s ← slot w.stubs "fake" f
    set { w with stubs := w.stubs.set! f { s with releases := s.releases + 1 } }
  | .made k =>
    let c ← controller k
    let (c', s, m) := c.release
    setController k c'
    if m ≠ "" then log c.logger s m

/-- Close a promise: disable and release its controller, once. -/
def closePromise (pr : Promise) : Sim Promise := do
  if pr.closed then return pr
  let c ← controller pr.controller
  setController pr.controller c.disable
  release (.made pr.controller)
  return { pr with closed := true }

/-- Close the promise of an execution slot, if it has one. -/
def closeExecution (q : Nat) : Sim Unit := do
  let e ← slot (← get).executions "promise" q
  match e.promise with
  | none => pure ()
  | some pr =>
    let pr ← closePromise pr
    let e ← slot (← get).executions "promise" q
    modify fun w => { w with executions := w.executions.set! q { e with promise := some pr } }

end Scenario

end HostDispatch
