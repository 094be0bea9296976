import HostDispatch.Scheduler.Queue
import HostDispatch.Scheduler.Pool
import HostDispatch.Validation
import HostDispatch.Log.Record
import HostDispatch.Metrics.Registry

/-!
# The real-time loop

A loop keeps a queue of pending actions and hands each firing to a pool of workers, which runs the
handler of the firing's continuation unless the continuation was destroyed. The loop runs on wall
time; here its time is a timeline that stands still between steps and moves only while someone
waits for something the firings bring about. Waiting moves the timeline from one due time to the
next and fires, at each, every action due by then, in queue order. Repeating actions are fixed-rate
and skip to one period past now when they fall more than a period behind.

The loop is a machine of goroutines that take atomic steps in any order: the callers of its
functions, its own goroutine, which takes the due firings in batches and submits each to the pool
under the loop's context, the pool's calls and workers, and Close. Close sets the closed flag and
drops the queue, cancels the context, so that a submit still waiting gives up, waits for the loop's
goroutine to return and then, for a pool the loop made, shuts the pool down and waits until it is
done. A firing the pool refuses is dropped and reported. Run one caller at a time, waiting and
closing are fixed orders of these steps.

A loop is made from a configuration: an empty name is `default`, zero workers are 4, a zero queue is
100, a minimum period or maximum sleep that is not positive is 1 ms or 60 s. When the loop makes its
own pool, the workers and the queue must be positive; a pool given to it is used as it is. A pool
that was shut down refuses every firing, which is then dropped and reported.

The handlers count their runs. A handler may destroy its own continuation on a given run, so that
later firings are skipped, and may panic on a given run; the loop's own pool reports the panic.
Reports of misuse, panics and dropped firings pass through a logger limited to five lines.
-/

namespace HostDispatch

/-- Where a loop delivers its firings. -/
inductive Delivery where
  /-- A pool the loop makes for itself. -/
  | own
  /-- A pool of one worker given to the loop. -/
  | external
  /-- A pool given to the loop that was already shut down. -/
  | shutDown
deriving DecidableEq, Inhabited

/-- The configuration of a loop. -/
structure LoopConfig where
  name : String := ""
  workers : Int := 0
  queueSize : Int := 0
  minPeriod : Int := 0
  maxSleep : Int := 0
  delivery : Delivery := .own
deriving Inhabited

namespace LoopConfig

/-- The configuration with its defaults filled in. -/
def withDefaults (c : LoopConfig) : LoopConfig :=
  { c with
    name := if c.name = "" then "default" else c.name
    workers := if c.workers = 0 then 4 else c.workers
    queueSize := if c.queueSize = 0 then 100 else c.queueSize
    minPeriod := if c.minPeriod ≤ 0 then 1000000 else c.minPeriod
    maxSleep := if c.maxSleep ≤ 0 then 60 * 1000000000 else c.maxSleep }

/-- Check a configuration: a loop that makes its own pool needs positive workers and queue. -/
def validate (c : LoopConfig) : Except Fault Unit := do
  if c.delivery = .own then
    Validation.positive "hostsched" "workers" c.workers
    Validation.positive "hostsched" "queue_size" c.queueSize

end LoopConfig

/-- A handler that counts its runs, destroying its continuation and panicking on given runs. -/
structure Counter where
  runs : Nat := 0
  destroyOn : Option Nat := none
  panicOn : Option Nat := none
deriving Inhabited

/-- A continuation of a loop: its handler and whether it was destroyed. -/
structure LoopCont where
  handler : Counter
  destroyed : Bool := false
deriving Inhabited

/-- Where the loop's goroutine stands. -/
inductive Turn where
  /-- Asleep until the next due time, a poke, or the cancellation of its context. -/
  | idle
  /-- About to submit firing `next` to the pool, and then the rest of its batch. -/
  | delivering (next : Firing) (rest : List Firing)
  /-- Waiting for the pool to take or refuse the firing it submitted as the pool's call `call`. -/
  | submitting (call : Nat) (rest : List Firing)
  /-- Returned, once its context was canceled. -/
  | exited
deriving Inhabited

/-- How far Close has gone; `dropped` counts the actions it dropped. -/
inductive Closing where
  | open
  /-- The flag is set and the queue dropped; the context is about to be canceled. -/
  | canceling (dropped : Nat)
  /-- Waiting for the loop's goroutine to return. -/
  | joining (dropped : Nat)
  /-- Waiting for the loop's own pool to finish its shutdown. -/
  | draining (dropped : Nat)
  /-- Close returned. -/
  | finished
deriving DecidableEq, Inhabited

/-- The pool a loop delivers to: its own, made from its configuration with a panic handler, a pool
of one worker given to it, or such a pool that was shut down. -/
def LoopConfig.pool (c : LoopConfig) : PoolState :=
  match c.delivery with
  | .own =>
    PoolState.start { name := c.name, workers := c.workers, queueSize := c.queueSize,
                      panicHandler := true, configured := false }
  | .external => PoolState.start { workers := 1, queueSize := 1, configured := false }
  | .shutDown =>
    (PoolState.start { workers := 1, queueSize := 1, configured := false }).steps (Pool.shutDown 1)

/-- A loop and what it has logged. -/
structure Loop where
  config : LoopConfig
  now : Time
  queue : Queue := { }
  /-- The continuations, the one with id `i + 1` at index `i`. -/
  conts : Array LoopCont := #[]
  turn : Turn := .idle
  pool : PoolState
  /-- The firings submitted to the pool, each at the number of the pool's call that submitted it. -/
  deliveries : List Firing := []
  closing : Closing := .open
  metrics : Option Metrics.Registry
  logger : Log.Logger
  /-- The limited logger for reports. -/
  reports : Log.Limited
  lines : Array Json := #[]
deriving Inhabited

/-- A step of one goroutine of a loop. -/
inductive LoopAct where
  /-- A caller makes a continuation for a handler (none for a missing one). -/
  | newContinuation (handler : Option Counter)
  /-- A caller arms an action of a kind for a continuation (or for none). -/
  | schedule (cont : Option Nat) (kind : Kind) (d : Int)
  /-- A caller cancels an action (or none). -/
  | cancel (action : Option Nat)
  /-- A caller destroys a continuation (or none). -/
  | destroy (cont : Option Nat)
  /-- Wall time moves on. -/
  | tick (t : Time)
  /-- The loop's goroutine wakes and takes every firing due. -/
  | wake
  /-- It submits the next firing of its batch to the pool. -/
  | submit
  /-- It reads what the pool answered its submit. -/
  | settle
  /-- It sees its context canceled and returns. -/
  | exit
  /-- A step of the pool's goroutines. -/
  | work (a : Pool.Act)
  /-- Close takes its next step. -/
  | close

namespace Loop

/-- The closed flag. -/
def closed (l : Loop) : Bool := l.closing != .open

/-- The loop's context was canceled. -/
def canceledCtx (l : Loop) : Bool :=
  match l.closing with
  | .open | .canceling _ => false
  | _ => true

/-- Write a line through the loop's logger. -/
def log (l : Loop) (s : Severity) (message : String) (fs : List Log.Field) : Loop :=
  match l.logger.line? s message fs with
  | some line => { l with lines := l.lines.push line }
  | none => l

/-- Write a report through the limited logger. -/
def report (l : Loop) (s : Severity) (message : String) (fs : List Log.Field) : Loop :=
  let (line, reports) := l.reports.line? s message fs
  { l with reports := reports, lines := match line with
    | some j => l.lines.push j
    | none => l.lines }

/-- Change the registry, if the loop keeps one. -/
def count (l : Loop) (f : Metrics.Registry → Metrics.Registry) : Loop :=
  { l with metrics := l.metrics.map f }

/-- Make a loop from a configuration, with a registry and a logger. -/
def make (cfg : LoopConfig) (metrics : Option Metrics.Registry) (logger : Log.Logger) :
    Except Fault Loop := do
  let cfg := cfg.withDefaults
  cfg.validate
  let logger := logger.withFields [Log.text "component" "hostsched", Log.text "scheduler" cfg.name]
  let l : Loop := { config := cfg, now := Time.epoch, pool := cfg.pool, metrics := metrics,
                    logger := logger, reports := { logger := logger } }
  let l := if cfg.delivery = .own then
      l.count fun m => ((m.set .poolSize [cfg.name] cfg.workers).set .poolActive [cfg.name] 0).set
        .poolQueued [cfg.name] 0
    else l
  return l.log .debug "scheduler loop started" [("workers", .int cfg.workers)]

/-- Make a continuation for a handler (none for a missing one); returns its id. -/
def newContinuation (l : Loop) (h : Option Counter) : Except Fault (Nat × Loop) :=
  match h with
  | none => .error (Validation.missing "hostsched" "handler")
  | some c =>
    if l.closed then .error (.wrapped "hostsched: new continuation: " "" (.sentinel .closed))
    else .ok (l.conts.size + 1, { l with conts := l.conts.push { handler := c } })

/-- Whether a continuation was destroyed. -/
def isDestroyed (l : Loop) (cont : Nat) : Bool := (l.conts.getD (cont - 1) default).destroyed

/-- Arm an action of a kind for a continuation (or for none); returns its id. A negative delay
fires at once, and a period below the minimum is raised to it. -/
def schedule (l : Loop) (cont : Option Nat) (kind : Kind) (d : Int) : Except Fault (Nat × Loop) :=
  let d := match kind with
    | .once => max d 0
    | .every => max d l.config.minPeriod
  match cont with
  | none => .error (Validation.missing "hostsched" "continuation")
  | some c =>
    if l.isDestroyed c then
      .error (.wrapped ("hostsched: schedule on destroyed continuation " ++ toString c ++ ": ") ""
        (.sentinel .closed))
    else if l.closed then
      .error (.wrapped ("hostsched: schedule " ++ kind.name ++ ": ") "" (.sentinel .closed))
    else
      let (id, q) := l.queue.arm c kind d l.now
      let l := { l with queue := q }.count fun m =>
        (m.inc .actionsScheduled [l.config.name, kind.name]).add .actionsPending [l.config.name] 1
      .ok (id, l)

/-- Cancel an action (or none): after closing nothing is pending and canceling does nothing;
otherwise the action must be pending, a cancel that takes it out is counted under its kind, and a
refused cancel is counted and reported. -/
def cancel (l : Loop) (action : Option Nat) : Except Fault Unit × Loop :=
  if l.closed then (.ok (), l)
  else
    match action.bind l.queue.find, action.bind l.queue.cancel with
    | some a, some q =>
      (.ok (), { l with queue := q }.count fun m =>
        (m.inc .actionsCanceled [l.config.name, a.kind.name]).add .actionsPending [l.config.name] (-1))
    | _, _ =>
      let fault : Fault := .sentinel .actionNotPending
      let l := l.count fun m => m.inc .cancelMisuse [l.config.name]
      (.error fault, l.report .error "cancel of an action that is not pending" [Log.err fault.message])

/-- Destroy a continuation (or none). -/
def destroy (l : Loop) (cont : Option Nat) : Loop :=
  match cont with
  | some c =>
    if c = 0 || c > l.conts.size then l
    else { l with conts := l.conts.modify (c - 1) fun k => { k with destroyed := true } }
  | none => l

/-- The number of pending actions. -/
def pending (l : Loop) : Nat := l.queue.size

/-- The runs of a continuation's handler. -/
def runs (l : Loop) (cont : Nat) : Nat := (l.conts.getD (cont - 1) default).handler.runs

/-- Run the handler of a continuation for one firing, unless the continuation was destroyed. -/
def runHandler (l : Loop) (cont : Nat) : Loop :=
  let k := l.conts.getD (cont - 1) default
  if k.destroyed || cont = 0 || cont > l.conts.size then l
  else
    let n := k.handler.runs + 1
    let k := { k with handler := { k.handler with runs := n },
                      destroyed := k.handler.destroyOn == some n }
    let l := { l with conts := l.conts.set! (cont - 1) k }
    if k.handler.panicOn == some n && l.config.delivery = .own then
      l.report .error "continuation callback panicked"
        [Log.text "panic" ("handler panic on run " ++ toString n)]
    else l

/-- Take every firing due by now, in queue order; at most `fuel` of them. -/
def takeDue (now : Time) : Nat → Queue → List Firing × Queue
  | 0, q => ([], q)
  | fuel + 1, q =>
    match q.popDue now true with
    | none => ([], q)
    | some (f, q) =>
      let (rest, q) := takeDue now fuel q
      (f :: rest, q)

/-- Where the loop's goroutine goes after a firing: to the next of its batch, or to sleep. -/
def Turn.after : List Firing → Turn
  | [] => .idle
  | f :: rest => .delivering f rest

/-- Submit firing `f` to the pool as its next call, under the loop's context: a call made once
the context is canceled sees it canceled from the start. -/
def submit (l : Loop) (f : Firing) (rest : List Firing) : Loop :=
  let l := l.count fun m =>
    let m := m.inc .actionsFired [l.config.name, f.kind.name]
    if f.kind = .once then m.add .actionsPending [l.config.name] (-1) else m
  let i := l.pool.calls.length
  let acts : List Pool.Act := .submit (some .succeed) false true :: if l.canceledCtx then [.cancel i] else []
  { l with pool := l.pool.steps acts, deliveries := l.deliveries ++ [f], turn := .submitting i rest }

/-- Read the pool's answer to call `i`: a refused firing is dropped and reported. -/
def settle (l : Loop) (r : Except Fault Unit) (i : Nat) (rest : List Firing) : Loop :=
  let l := { l with turn := Turn.after rest }
  match r with
  | .ok () => l
  | .error e =>
    let f := (l.deliveries[i]?).getD default
    let l := l.count fun m => m.inc .deliveriesDropped [l.config.name]
    l.report .warn "firing not delivered"
      [("continuation", .int f.cont), ("action", .int f.action), Log.err e.message]

/-- Start task `j` on a worker: the delivery of firing `j`. -/
def startTask (l : Loop) (j : Nat) : Loop :=
  match l.deliveries[j]? with
  | some f => l.runHandler f.cont
  | none => l

/-- A step of the pool's goroutines: a submit call or a worker. A worker that starts task `j`
delivers firing `j`. The steps of the pool's shutdown belong to Close, for a pool the loop made. -/
def work (l : Loop) (a : Pool.Act) : Option Loop :=
  match a with
  | .call _ _ => (l.pool.next a).map fun p => { l with pool := p }
  | .worker w pick =>
    (l.pool.next a).map fun p =>
      match l.pool.workers[w]?, pick with
      | some (.running j _), .step => { l with pool := p }.startTask j
      | _, _ => { l with pool := p }
  | .shutdown =>
    match l.closing with
    | .draining _ => (l.pool.next a).map fun p => { l with pool := p }
    | _ => none
  | _ => none

/-- Close returns, logging the actions it dropped. -/
def stop (l : Loop) (dropped : Nat) : Loop :=
  { l with closing := .finished }.log .debug "scheduler loop stopped" [("dropped_actions", .int dropped)]

/-- The next step of Close. It sets the flag and drops every pending action, cancels the context,
waits for the loop's goroutine to return and, for a pool the loop made, for the pool to be done.
Once it has returned, a further Close does nothing. -/
def closeStep (l : Loop) : Option Loop :=
  match l.closing with
  | .open =>
    let (dropped, q) := l.queue.dropAll
    let l := { l with queue := q, closing := .canceling dropped }
    some (if dropped = 0 then l
      else l.count fun m => m.add .actionsPending [l.config.name] (-(dropped : Int)))
  | .canceling n =>
    some { l with pool := l.pool.steps ((List.range l.pool.calls.length).map .cancel),
                  closing := .joining n }
  | .joining n =>
    match l.turn with
    | .exited =>
      some (if l.config.delivery = .own then { l with closing := .draining n } else l.stop n)
    | _ => none
  | .draining n => if l.pool.done then some (l.stop n) else none
  | .finished => some l

/-- The loop after one step, if the step can be taken. -/
def next (l : Loop) : LoopAct → Option Loop
  | .newContinuation h =>
    some (match l.newContinuation h with
      | .ok (_, l') => l'
      | .error _ => l)
  | .schedule c kind d =>
    some (match l.schedule c kind d with
      | .ok (_, l') => l'
      | .error _ => l)
  | .cancel a => some (l.cancel a).2
  | .destroy c => some (l.destroy c)
  | .tick t => some (if t.after l.now then { l with now := t } else l)
  | .wake =>
    match l.turn with
    | .idle =>
      let (batch, q) := takeDue l.now (l.queue.size + 1) l.queue
      some { l with queue := q, turn := Turn.after batch }
    | _ => none
  | .submit =>
    match l.turn with
    | .delivering f rest => some (l.submit f rest)
    | _ => none
  | .settle =>
    match l.turn with
    | .submitting i rest => (l.pool.result i).map fun r => l.settle r i rest
    | _ => none
  | .exit =>
    match l.turn with
    | .idle => if l.canceledCtx then some { l with turn := .exited } else none
    | _ => none
  | .work a => l.work a
  | .close => l.closeStep

/-- Take steps in order, passing over each that cannot be taken. -/
def steps (l : Loop) (acts : List LoopAct) : Loop :=
  acts.foldl (fun l a => (l.next a).getD l) l

/-- The steps that submit a firing as the pool's call `i` and let the pool run it: the call runs
until it returns, the first worker takes the task and runs it, and the loop reads the answer. -/
def deliverActs (i : Nat) : List LoopAct :=
  [.submit] ++
    (([.call i .step, .call i .step, .call i .step, .call i .step, .call i .send,
      .call i (.handoff 0), .call i .step, .call i .step, .worker 0 .receive, .worker 0 .step,
      .worker 0 .step] : List Pool.Act).map .work) ++ [.settle]

/-- Deliver a batch, one firing after another. -/
def deliverBatch : List Firing → Loop → Loop
  | [], l => l
  | _ :: rest, l => deliverBatch rest (l.steps (deliverActs l.pool.calls.length))

/-- Move the timeline to a time and fire everything due by it. -/
def fireAt (l : Loop) (t : Time) : Loop :=
  let l := l.steps [.tick t, .wake]
  match l.turn with
  | .delivering f rest => deliverBatch (f :: rest) l
  | _ => l

/-- Close the loop while nothing else runs: the loop's goroutine returns at once, and the loop's
own pool drains its workers. -/
def close (l : Loop) : Loop :=
  l.steps ([.close, .close, .exit, .close] ++ (Pool.shutDown l.pool.workers.length).map .work ++
    [.close])

/-- How long a wait lasts before it gives up: five seconds. -/
def waitLimit : Int := 5 * 1000000000

/-- The most batches of firings one wait goes through. -/
def waitFuel : Nat := 200000

/-- Wait until a condition holds, firing what falls due; false when it does not hold within the
limit. -/
def waitFor (cond : Loop → Bool) (deadline : Time) : Nat → Loop → Bool × Loop
  | 0, l => (cond l, l)
  | fuel + 1, l =>
    if cond l then (true, l)
    else
      match l.queue.peek with
      | some due =>
        if due.after deadline then (false, { l with now := deadline })
        else waitFor cond deadline fuel (l.fireAt due)
      | none => (false, { l with now := deadline })

/-- Wait until a condition holds, for at most the limit. -/
def await (l : Loop) (cond : Loop → Bool) : Bool × Loop :=
  waitFor cond (l.now.add waitLimit) waitFuel l

/-- The metric lines of the loop's registry. -/
def metricLines (l : Loop) : List String := (l.metrics.map (·.lines)).getD []

end Loop

end HostDispatch
