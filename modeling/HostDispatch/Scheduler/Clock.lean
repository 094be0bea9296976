import HostDispatch.Scheduler.Queue
import HostDispatch.Fault
import HostDispatch.Validation

/-!
# The simulated clock

A clock owns the current time, the queue of pending actions, the continuations it has made (by id,
from 1, each either live or destroyed) and counters of what happened. Time moves only when the clock
is advanced to a target: the pending actions due by the target fire one at a time in queue order,
the clock standing at each one's due time while it fires, and then the clock moves to the target if
that is later. Time never moves backwards.

Advancing is split in three so that whoever runs the handlers can interleave them: `beginAdvance`
refuses a second advance while one is running, `takeDue` takes the next firing, `finishAdvance`
moves to the target. A firing of a destroyed continuation still counts as fired but is not
delivered.
-/

namespace HostDispatch

/-- The counters a clock keeps. -/
structure ClockStats where
  scheduledOnce : Nat := 0
  scheduledEvery : Nat := 0
  canceled : Nat := 0
  fired : Nat := 0
  cancelMisuse : Nat := 0
  continuations : Nat := 0
  destroyed : Nat := 0
deriving Inhabited

/-- The shortest period of a repeating action, a millisecond. -/
def minPeriod : Int := 1000000

/-- The state of a simulated clock. -/
structure Clock where
  now : Time
  queue : Queue := {}
  stats : ClockStats := {}
  /-- Whether each continuation is destroyed, the one with id `i + 1` at index `i`. -/
  destroyed : Array Bool := #[]
  /-- An advance is running. -/
  advancing : Bool := false
deriving Inhabited

namespace Clock

/-- The message of a refused nested advance. -/
def reentryMessage : String := "hostsched: Manual.AdvanceTo called from a callback"

/-- A clock at a start time; the zero time starts it at the Unix epoch. -/
def start (t : Time) : Clock := { now := if t.isZero then Time.epoch else t }

/-- Whether a continuation is destroyed. -/
def isDestroyed (k : Clock) (cont : Nat) : Bool := k.destroyed.getD (cont - 1) false

/-- Make a continuation; returns its id. -/
def newContinuation (k : Clock) : Nat × Clock :=
  let id := k.destroyed.size + 1
  (id, { k with destroyed := k.destroyed.push false,
                stats := { k.stats with continuations := k.stats.continuations + 1 } })

/-- The fault of scheduling on a destroyed continuation. -/
def destroyedFault (cont : Nat) : Fault :=
  .wrapped ("hostsched: schedule on destroyed continuation " ++ toString cont ++ ": ") ""
    (.sentinel .closed)

/-- Arm an action of a kind for a continuation (or for none), after a duration already clamped. -/
def schedule (k : Clock) (cont : Option Nat) (kind : Kind) (d : Int) : Except Fault (Nat × Clock) :=
  match cont with
  | none => .error (Validation.missing "hostsched" "continuation")
  | some c =>
    if k.isDestroyed c then .error (destroyedFault c)
    else
      let stats := match kind with
        | .once => { k.stats with scheduledOnce := k.stats.scheduledOnce + 1 }
        | .every => { k.stats with scheduledEvery := k.stats.scheduledEvery + 1 }
      let (id, q) := k.queue.arm c kind d k.now
      .ok (id, { k with queue := q, stats := stats })

/-- Arm a one-shot action; a negative delay fires at once. -/
def scheduleOnce (k : Clock) (cont : Option Nat) (delay : Int) : Except Fault (Nat × Clock) :=
  k.schedule cont .once (max delay 0)

/-- Arm a repeating action; a period below `minPeriod` is raised to it. -/
def scheduleEvery (k : Clock) (cont : Option Nat) (period : Int) : Except Fault (Nat × Clock) :=
  k.schedule cont .every (max period minPeriod)

/-- Cancel an action (or none): it must be pending. A refused cancel counts as a misuse. -/
def cancel (k : Clock) (action : Option Nat) : Except Fault Clock × Clock :=
  match action.bind k.queue.cancel with
  | some q =>
    let k := { k with queue := q, stats := { k.stats with canceled := k.stats.canceled + 1 } }
    (.ok k, k)
  | none =>
    let k := { k with stats := { k.stats with cancelMisuse := k.stats.cancelMisuse + 1 } }
    (.error (.sentinel .actionNotPending), k)

/-- Destroy a continuation (or none); destroying twice changes nothing. -/
def destroyContinuation (k : Clock) (cont : Option Nat) : Clock :=
  match cont with
  | none => k
  | some c =>
    if k.isDestroyed c || c = 0 || c > k.destroyed.size then k
    else { k with destroyed := k.destroyed.set! (c - 1) true,
                  stats := { k.stats with destroyed := k.stats.destroyed + 1 } }

/-- Start an advance; `none` when one is already running. -/
def beginAdvance (k : Clock) : Option Clock :=
  if k.advancing then none else some { k with advancing := true }

/-- Take the next firing due by the target, moving the clock to its due time if that is later. -/
def takeDue (k : Clock) (target : Time) : Option (Firing × Clock) :=
  match k.queue.popDue target false with
  | none => none
  | some (f, q) =>
    some (f, { k with queue := q,
                      now := if f.due.after k.now then f.due else k.now,
                      stats := { k.stats with fired := k.stats.fired + 1 } })

/-- End an advance: move to the target if it is later. -/
def finishAdvance (k : Clock) (target : Time) : Clock :=
  { k with now := if target.after k.now then target else k.now, advancing := false }

/-- The number of pending actions. -/
def pending (k : Clock) : Nat := k.queue.size

/-- When the first pending action is due. -/
def nextDue (k : Clock) : Option Time := k.queue.peek

/-- The nanoseconds from a time to now, saturating. -/
def elapsed (k : Clock) (t : Time) : Int := k.now.sub t

end Clock

end HostDispatch
