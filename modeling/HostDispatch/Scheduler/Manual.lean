import HostDispatch.Scheduler.Heap
import HostDispatch.Scheduler.Clock

/-!
# The simulated clock over the timer heap

`Clock` states what the simulated clock does with its pending actions in a list sorted in firing
order. The clock as the program keeps it, `Manual`, holds them in the timer queue's heap instead,
and each operation calls the heap's: scheduling arms a record and pushes it, canceling reads the
action's record and takes it off the heap at its position, and an advance takes the root while it
is due. This clock never skips missed firings. Everything else is as in `Clock`.
-/

namespace HostDispatch

/-- The state of the simulated clock over the timer heap. -/
structure Manual where
  now : Time
  queue : TimerQueue
  stats : ClockStats := {}
  /-- Whether each continuation is destroyed, the one with id `i + 1` at index `i`. -/
  destroyed : Array Bool := #[]
  /-- An advance is running. -/
  advancing : Bool := false

namespace Manual

/-- A clock at a start time; the zero time starts it at the Unix epoch. -/
def start (t : Time) : Manual :=
  { now := if t.isZero then Time.epoch else t, queue := TimerQueue.empty false }

/-- Whether a continuation is destroyed. -/
def isDestroyed (m : Manual) (cont : Nat) : Bool := m.destroyed.getD (cont - 1) false

/-- Make a continuation; returns its id. -/
def newContinuation (m : Manual) : Nat × Manual :=
  let id := m.destroyed.size + 1
  (id, { m with destroyed := m.destroyed.push false,
                stats := { m.stats with continuations := m.stats.continuations + 1 } })

/-- Arm an action of a kind for a continuation (or for none), after a duration already clamped. -/
def schedule (m : Manual) (cont : Option Nat) (kind : Kind) (d : Int) :
    Except Fault (Nat × Manual) :=
  match cont with
  | none => .error (Validation.missing "hostsched" "continuation")
  | some c =>
    if m.isDestroyed c then .error (Clock.destroyedFault c)
    else
      let stats := match kind with
        | .once => { m.stats with scheduledOnce := m.stats.scheduledOnce + 1 }
        | .every => { m.stats with scheduledEvery := m.stats.scheduledEvery + 1 }
      let (id, q) := m.queue.arm c kind d m.now
      .ok (id, { m with queue := q, stats := stats })

/-- Arm a one-shot action; a negative delay fires at once. -/
def scheduleOnce (m : Manual) (cont : Option Nat) (delay : Int) : Except Fault (Nat × Manual) :=
  m.schedule cont .once (max delay 0)

/-- Arm a repeating action; a period below `minPeriod` is raised to it. -/
def scheduleEvery (m : Manual) (cont : Option Nat) (period : Int) :
    Except Fault (Nat × Manual) :=
  m.schedule cont .every (max period minPeriod)

/-- Cancel an action (or none) through its record: it must be pending and have a position. A
refused cancel counts as a misuse. -/
def cancel (m : Manual) (action : Option Nat) : Except Fault Manual × Manual :=
  match m.queue.cancel action with
  | some q =>
    let m := { m with queue := q, stats := { m.stats with canceled := m.stats.canceled + 1 } }
    (.ok m, m)
  | none =>
    let m := { m with stats := { m.stats with cancelMisuse := m.stats.cancelMisuse + 1 } }
    (.error (.sentinel .actionNotPending), m)

/-- Destroy a continuation (or none); destroying twice changes nothing. -/
def destroyContinuation (m : Manual) (cont : Option Nat) : Manual :=
  match cont with
  | none => m
  | some c =>
    if m.isDestroyed c || c = 0 || c > m.destroyed.size then m
    else { m with destroyed := m.destroyed.set! (c - 1) true,
                  stats := { m.stats with destroyed := m.stats.destroyed + 1 } }

/-- Start an advance; `none` when one is already running. -/
def beginAdvance (m : Manual) : Option Manual :=
  if m.advancing then none else some { m with advancing := true }

/-- Take the root if it is due by the target, moving the clock to its due time if that is later. -/
def takeDue (m : Manual) (target : Time) : Option (Firing × Manual) :=
  match m.queue.popDue target with
  | none => none
  | some (f, q) =>
    some (f, { m with queue := q,
                      now := if f.due.after m.now then f.due else m.now,
                      stats := { m.stats with fired := m.stats.fired + 1 } })

/-- End an advance: move to the target if it is later. -/
def finishAdvance (m : Manual) (target : Time) : Manual :=
  { m with now := if target.after m.now then target else m.now, advancing := false }

/-- The number of pending actions. -/
def pending (m : Manual) : Nat := m.queue.size

/-- When the root is due. -/
def nextDue (m : Manual) : Option Time := m.queue.peek

end Manual

end HostDispatch
