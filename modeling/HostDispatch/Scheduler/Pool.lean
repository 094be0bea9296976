import HostDispatch.Fault
import HostDispatch.Metrics.Registry

/-!
# Worker pools

A pool has a fixed number of workers and a channel of tasks, buffered up to its queue size. It
refuses to exist with no worker or a negative queue. A task is submitted by waiting for room
(optionally with a context that may be canceled), or by trying once; a missing task is refused
first, then any task once the pool is shut down, then a task whose context is already canceled.

The pool is a machine of goroutines that take atomic steps in any order: every call of a submit
function, every worker, and the shutdown. A submitting call holds the read side of the pool's lock
from before it reads the shutdown flag until it returns; the shutdown first closes its channel, so
that waiting calls give up, then takes the write side to set the flag once every call in flight has
left, then closes the drain channel. A worker takes tasks from the channel until the drain is
closed, then takes what is left without waiting and exits. With no buffer, a task goes from a
waiting call straight to a worker. Once every worker has exited the pool is done.

A task that panics is recovered: its fault reads `task panicked: <value>` followed by the stack,
and the pool's panic handler, if it has one, sees the value first. With a task timeout, each task
runs under a deadline of that length. A pool made from a full configuration reports every finished
task.

A pool with a registry reports its size, its busy workers and its queue under its name; at rest the
last two are zero.
-/

namespace HostDispatch

/-- What a task does when it runs. -/
inductive Job where
  | succeed
  | fail (message : String)
  | panic (message : String)
  /-- Waits for the deadline of its context, failing with `no deadline` when it has none. -/
  | awaitDeadline
  /-- Sleeps for a millisecond. -/
  | pause
deriving Inhabited

/-- How a task is handed to a pool. -/
inductive Handoff where
  /-- Wait for room. -/
  | submit
  /-- Try once. -/
  | trySubmit
  /-- Wait for room, with a context that is already canceled. -/
  | canceled
deriving DecidableEq, Inhabited

/-- The configuration of a pool. -/
structure PoolConfig where
  name : String := ""
  workers : Int
  queueSize : Int
  taskTimeout : Int := 0
  /-- Whether a panic handler sees the values of panics. -/
  panicHandler : Bool := false
  /-- Whether the pool was made from a full configuration, reporting finished tasks and keeping
  metrics, rather than from its counts alone. -/
  configured : Bool := true
deriving Inhabited

/-- A finished task: its number, the first line of its fault, and the panic value the panic
handler saw. -/
structure Completion where
  task : Nat
  fault : Option String
  recovered : Option String
deriving Inhabited

/-- What a pool did with its tasks until it was shut down twice. -/
structure PoolReport where
  size : Int
  /-- The result of each submission, in task order. -/
  submits : List (Except Fault Unit)
  /-- The results of submitting, trying, submitting with a context, and submitting a missing
  task after the shutdown. -/
  afterShutdown : List (Except Fault Unit)
  submitted : Nat
  completed : Nat
  /-- The tasks still queued and the workers still busy. -/
  queued : Nat
  active : Nat
  /-- The finished tasks in task order; none when nothing was reported. -/
  completions : Option (List Completion)
  metrics : Option Metrics.Registry

namespace Pool

/-- The fault of submitting to a pool that was shut down. -/
def closedFault : Fault :=
  .wrapped "cannot submit task: worker pool has been shut down: " "" (.sentinel .closed)

/-- The fault of submitting a missing task. -/
def missingTask : Fault := .plain "task cannot be nil"

/-- The fault of submitting with a canceled context. -/
def canceledFault : Fault := .wrapped "cannot submit task: context canceled: " "" (.plain "context canceled")

/-- The fault of trying to submit when no room is free, with the tasks queued. -/
def capacityFault (queued : Nat) : Fault :=
  .wrapped ("cannot submit task: " ++ toString queued ++ " queued: ") "" (.sentinel .capacityExceeded)

/-- The first line of a text. -/
def firstLine (s : String) : String := (s.splitOn "\n").headD ""

/-- Check a configuration; a refusal is a panic with its message. -/
def check (cfg : PoolConfig) : Except String PoolConfig :=
  if cfg.workers ≤ 0 then .error "worker count must be positive"
  else if cfg.queueSize < 0 then .error "queue size must be >= 0"
  else .ok { cfg with name := if cfg.name = "" then "default" else cfg.name }

/-- Run a task and report it. -/
def finish (cfg : PoolConfig) (task : Nat) (job : Job) : Completion :=
  match job with
  | .succeed | .pause => ⟨task, none, none⟩
  | .fail m => ⟨task, some (firstLine m), none⟩
  | .panic m =>
    ⟨task, some (firstLine ("task panicked: " ++ m)), if cfg.panicHandler then some m else none⟩
  | .awaitDeadline =>
    ⟨task, some (if cfg.taskTimeout > 0 then "context deadline exceeded" else "no deadline"), none⟩

/-! ## The goroutines of a pool -/

/-- Where a call of a submit function stands. From `checking` until it returns it holds the read
side of the pool's lock. -/
inductive CallPc where
  /-- About to check its task. -/
  | start
  /-- Waiting for the read lock. -/
  | locking
  /-- Reading the shutdown flag. -/
  | checking
  /-- Asking whether its context is done already. -/
  | prechecking
  /-- In its select: sending the task, or giving up on the shutdown, on its context or, when it
  only tries, at once. -/
  | selecting
  /-- The task was sent; it counts it. -/
  | counting
  /-- About to release the lock and return. -/
  | leaving (result : Except Fault Unit)
  | returned (result : Except Fault Unit)
deriving Inhabited

/-- A call of Submit, SubmitWithContext or TrySubmit: its task (none for a missing one), whether
it only tries, whether its context can be canceled and is, and where it stands. -/
structure Call where
  job : Option Job
  trying : Bool
  cancelable : Bool
  canceled : Bool := false
  pc : CallPc := .start
deriving Inhabited

/-- Where a worker stands. A task it holds is named by the number of the call that sent it. -/
inductive WorkerPc where
  /-- In its main loop, waiting for a task or for the drain. -/
  | waiting
  /-- Taking what is left, without waiting. -/
  | draining
  /-- Holding a task it has not started; `drain` says which loop it returns to. -/
  | running (task : Nat) (drain : Bool)
  | executing (task : Nat) (drain : Bool)
  | exited
deriving DecidableEq, Inhabited

/-- Whether a worker is executing a task. -/
def WorkerPc.busy : WorkerPc → Bool
  | .executing _ _ => true
  | _ => false

/-- Whether a call returned without a fault. -/
def CallPc.accepted : CallPc → Bool
  | .returned (.ok ()) => true
  | _ => false

/-- Where the shutdown stands: each stage names the step it takes next. -/
inductive ShutdownPc where
  /-- Not called. -/
  | idle
  /-- The shutdown channel is closed; waiting for the write lock. -/
  | locking
  /-- Holding the write lock; about to set the flag. -/
  | flagging
  /-- The flag is set; about to release the lock. -/
  | unlocking
  /-- About to close the drain channel. -/
  | draining
  /-- The drain is closed; waiting for the workers to exit. -/
  | waiting
  /-- Done. -/
  | finished
deriving DecidableEq, Inhabited

/-- How far the shutdown has gone. -/
def ShutdownPc.rank : ShutdownPc → Nat
  | .idle => 0
  | .locking => 1
  | .flagging => 2
  | .unlocking => 3
  | .draining => 4
  | .waiting => 5
  | .finished => 6

/-- What a call does in its select. -/
inductive CallPick where
  /-- The one step it can take outside a select. -/
  | step
  /-- Send into the buffer. -/
  | send
  /-- Hand the task straight to a waiting worker, with no buffer. -/
  | handoff (worker : Nat)
  /-- Give up on the closed shutdown channel. -/
  | closed
  /-- Give up on its canceled context. -/
  | canceled
  /-- Give up at once, finding no room. -/
  | full

/-- What a worker does. -/
inductive WorkerPick where
  | step
  /-- Take the task at the head of the buffer. -/
  | receive
  /-- Take the closed drain. -/
  | drain
  /-- While draining with no buffer, take the task of a call waiting to send it. -/
  | take (call : Nat)
  /-- Find nothing left and exit. -/
  | exit

/-- A step of one goroutine of a pool. -/
inductive Act where
  /-- A goroutine calls a submit function with a task. -/
  | submit (job : Option Job) (trying cancelable : Bool)
  /-- The context of a call is canceled. -/
  | cancel (call : Nat)
  | call (call : Nat) (pick : CallPick)
  | worker (worker : Nat) (pick : WorkerPick)
  /-- The shutdown takes its next step; it is called by the first Shutdown. -/
  | shutdown

namespace Call

/-- Whether a call holds the read side of the lock. -/
def holdsLock (c : Call) : Bool :=
  match c.pc with
  | .checking | .prechecking | .selecting | .counting | .leaving _ => true
  | _ => false

/-- Whether a call waits in its select to send, so that a draining worker may take its task. -/
def blocked (c : Call) : Bool :=
  match c.pc with
  | .selecting => !c.trying
  | _ => false

/-- Whether a call is in its select. -/
def selecting (c : Call) : Bool :=
  match c.pc with
  | .selecting => true
  | _ => false

end Call

end Pool

open Pool

/-- A pool: its configuration and channel, its calls in the order they were made, its workers and
its shutdown, its counters, the tasks it started and the finished tasks it reported. -/
structure PoolState where
  config : PoolConfig
  capacity : Nat
  /-- The tasks in the channel's buffer, oldest first. -/
  buffer : List Nat := []
  calls : List Call := []
  workers : List WorkerPc
  shutdown : ShutdownPc := .idle
  submitted : Nat := 0
  completed : Nat := 0
  /-- The tasks whose execution started, in order. -/
  executed : List Nat := []
  reports : List Completion := []
deriving Inhabited

namespace PoolState

/-- A pool just made from a checked configuration, its workers waiting. -/
def start (cfg : PoolConfig) : PoolState :=
  { config := cfg, capacity := cfg.queueSize.toNat,
    workers := List.replicate cfg.workers.toNat .waiting }

section Flags

variable (s : PoolState)

/-- The shutdown channel is closed. -/
def shutdownClosed : Bool := decide (1 ≤ s.shutdown.rank)

/-- The shutdown holds the write side of the lock. -/
def writerHeld : Bool := s.shutdown == .flagging || s.shutdown == .unlocking

/-- The shutdown flag is set. -/
def isShutdown : Bool := decide (3 ≤ s.shutdown.rank)

/-- The drain channel is closed. -/
def drainClosed : Bool := decide (5 ≤ s.shutdown.rank)

/-- Every worker has exited and the pool is done. -/
def done : Bool := s.shutdown == .finished

/-- The number of calls holding the read side of the lock. -/
def readers : Nat := s.calls.countP Call.holdsLock

/-- Whether a send can go through now: there is room in the buffer or, with no buffer, a worker
waits in its main loop. -/
def sendReady : Bool :=
  decide (s.buffer.length < s.capacity) || (s.capacity == 0 && s.workers.contains .waiting)

/-- Whether, with no buffer, some call waits in its select to send. -/
def senderBlocked : Bool := s.capacity == 0 && s.calls.any Call.blocked

/-- The report of a finished task. -/
def report (j : Nat) : Completion :=
  match (s.calls[j]?).bind (·.job) with
  | some job => finish s.config j job
  | none => ⟨j, none, none⟩

end Flags

/-- Replace a call. -/
def setCall (s : PoolState) (i : Nat) (c : Call) : PoolState := { s with calls := s.calls.set i c }

/-- Replace a worker. -/
def setWorker (s : PoolState) (w : Nat) (pc : WorkerPc) : PoolState :=
  { s with workers := s.workers.set w pc }

/-- Move a call to a place of its program. -/
def moveCall (s : PoolState) (i : Nat) (c : Call) (pc : CallPc) : PoolState :=
  s.setCall i { c with pc := pc }

/-- A step of call `i`, which is `c`. -/
def callStep (s : PoolState) (i : Nat) (c : Call) : CallPick → Option PoolState
  | .step =>
    match c.pc with
    | .start =>
      some (s.moveCall i c (if c.job.isSome then .locking else .returned (.error missingTask)))
    | .locking => if s.writerHeld then none else some (s.moveCall i c .checking)
    | .checking =>
      some (s.moveCall i c (if s.isShutdown then .leaving (.error closedFault)
        else if c.trying then .selecting else .prechecking))
    | .prechecking =>
      some (s.moveCall i c (if c.canceled then .leaving (.error canceledFault) else .selecting))
    | .counting => some { s.moveCall i c (.leaving (.ok ())) with submitted := s.submitted + 1 }
    | .leaving r => some (s.moveCall i c (.returned r))
    | _ => none
  | .send =>
    if c.selecting && decide (s.buffer.length < s.capacity) then
      some { s.moveCall i c .counting with buffer := s.buffer ++ [i] }
    else none
  | .handoff w =>
    if c.selecting && s.capacity == 0 && s.workers[w]? == some .waiting then
      some ((s.moveCall i c .counting).setWorker w (.running i false))
    else none
  | .closed =>
    if c.selecting && s.shutdownClosed then some (s.moveCall i c (.leaving (.error closedFault)))
    else none
  | .canceled =>
    if c.selecting && c.canceled then some (s.moveCall i c (.leaving (.error canceledFault)))
    else none
  | .full =>
    if c.selecting && c.trying && !s.sendReady && !s.shutdownClosed then
      some (s.moveCall i c (.leaving (.error (capacityFault s.buffer.length))))
    else none

/-- A step of worker `w`, which stands at `pc`. -/
def workerStep (s : PoolState) (w : Nat) : WorkerPc → WorkerPick → Option PoolState
  | .waiting, .receive =>
    match s.buffer with
    | j :: rest => some { s.setWorker w (.running j false) with buffer := rest }
    | [] => none
  | .waiting, .drain => if s.drainClosed then some (s.setWorker w .draining) else none
  | .draining, .receive =>
    match s.buffer with
    | j :: rest => some { s.setWorker w (.running j true) with buffer := rest }
    | [] => none
  | .draining, .take i =>
    match s.calls[i]? with
    | some c =>
      if s.capacity == 0 && c.blocked then
        some ((s.moveCall i c .counting).setWorker w (.running i true))
      else none
    | none => none
  | .draining, .exit =>
    if s.buffer.isEmpty && !s.senderBlocked then some (s.setWorker w .exited) else none
  | .running j d, .step => some { s.setWorker w (.executing j d) with executed := s.executed ++ [j] }
  | .executing j d, .step =>
    some { s.setWorker w (if d then .draining else .waiting) with
      completed := s.completed + 1
      reports := if s.config.configured then s.reports ++ [s.report j] else s.reports }
  | _, _ => none

/-- The next step of the shutdown. -/
def shutdownStep (s : PoolState) : Option PoolState :=
  match s.shutdown with
  | .idle => some { s with shutdown := .locking }
  | .locking => if s.readers == 0 then some { s with shutdown := .flagging } else none
  | .flagging => some { s with shutdown := .unlocking }
  | .unlocking => some { s with shutdown := .draining }
  | .draining => some { s with shutdown := .waiting }
  | .waiting => if s.workers.all (· == .exited) then some { s with shutdown := .finished } else none
  | .finished => none

/-- The pool after one step, if the step can be taken. -/
def next (s : PoolState) : Act → Option PoolState
  | .submit job trying cancelable =>
    some { s with calls := s.calls ++ [{ job := job, trying := trying, cancelable := cancelable }] }
  | .cancel i =>
    match s.calls[i]? with
    | some c => if c.cancelable && !c.canceled then some (s.setCall i { c with canceled := true })
      else none
    | none => none
  | .call i pick =>
    match s.calls[i]? with
    | some c => s.callStep i c pick
    | none => none
  | .worker w pick =>
    match s.workers[w]? with
    | some pc => s.workerStep w pc pick
    | none => none
  | .shutdown => s.shutdownStep

/-- Take steps in order, passing over each that cannot be taken. -/
def steps (s : PoolState) (acts : List Act) : PoolState :=
  acts.foldl (fun s a => (s.next a).getD s) s

/-- The result a call returned, if it has. -/
def result (s : PoolState) (i : Nat) : Option (Except Fault Unit) :=
  match s.calls[i]? with
  | some c =>
    match c.pc with
    | .returned r => some r
    | _ => none
  | none => none

/-- The number of workers executing a task. -/
def active (s : PoolState) : Nat := s.workers.countP WorkerPc.busy

end PoolState

namespace Pool

/-- How the pool's owner hands over task `i`: it makes the call and lets it run until it returns,
then lets the first worker run the task. Steps that do not apply are passed over: a missing task
returns at once, a try skips the context check, and with no buffer the task goes straight to the
worker. -/
def handover (i : Nat) (job : Option Job) (how : Handoff) : List Act :=
  [.submit job (how == .trySubmit) (how == .canceled)] ++
  (if how == .canceled then [.cancel i] else []) ++
  [.call i .step, .call i .step, .call i .step, .call i .step, .call i .send, .call i (.handoff 0),
   .call i .step, .call i .step, .worker 0 .receive, .worker 0 .step, .worker 0 .step]

/-- Shut a pool of `n` workers down and let it drain: each worker takes the drain and exits. -/
def shutDown (n : Nat) : List Act :=
  List.replicate 5 .shutdown ++
    (List.range n).flatMap (fun w => [.worker w .drain, .worker w .exit]) ++ [.shutdown]

/-- Submit a task and let the call run until it returns. -/
def attempt (i : Nat) (job : Option Job) (trying cancelable : Bool) : List Act :=
  [.submit job trying cancelable, .call i .step, .call i .step, .call i .step, .call i .step,
   .call i .step]

/-- The steps of a shutdown at `pc` until it no longer holds the write lock. -/
def release : ShutdownPc → List Act
  | .flagging => [.shutdown, .shutdown]
  | .unlocking => [.shutdown]
  | _ => []

/-- Try to submit a task to pool `s` and let the call run alone until it returns. A shutdown that
holds the write lock first lets go of it; the call then takes the read lock and reads the flag,
and in its select sends the task into the buffer, hands it to the first waiting worker, gives up
on the closed shutdown channel or finds no room. -/
def offer (s : PoolState) (job : Job) : List Act :=
  let i := s.calls.length
  release s.shutdown ++ [.submit (some job) true false, .call i .step, .call i .step, .call i .step, .call i .send,
   .call i (.handoff (s.workers.idxOf .waiting)), .call i .closed, .call i .full, .call i .step,
   .call i .step]

/-- Make a pool, submit the tasks in order, shut it down twice, and try each way of submitting once
more. -/
def run (cfg : PoolConfig) (metrics : Option Metrics.Registry)
    (tasks : List (Option Job × Handoff)) : Except String PoolReport := do
  let cfg ← check cfg
  let s := (tasks.zipIdx.foldl (fun s ((job, how), i) => s.steps (handover i job how))
    (PoolState.start cfg))
  let s := (s.steps (shutDown s.workers.length)).steps [.shutdown]
  let n := s.calls.length
  let s := s.steps (attempt n (some .succeed) false false ++ attempt (n + 1) (some .succeed) true false ++
    attempt (n + 2) (some .succeed) false true ++ attempt (n + 3) none false false)
  let metrics := if cfg.configured then
      metrics.map fun m =>
        ((m.set .poolSize [cfg.name] cfg.workers).set .poolActive [cfg.name] 0).set
          .poolQueued [cfg.name] 0
    else metrics
  return {
    size := cfg.workers
    submits := (List.range tasks.length).map fun i => (s.result i).getD (.ok ())
    afterShutdown := (List.range 4).map fun k => (s.result (n + k)).getD (.ok ())
    submitted := s.submitted
    completed := s.completed
    queued := s.buffer.length
    active := s.active
    completions := if cfg.configured && !s.reports.isEmpty then some s.reports else none
    metrics := metrics }

end Pool

end HostDispatch
