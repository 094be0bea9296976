import Mathlib
import HostDispatch.Scheduler.Pool

/-!
# The steps of a pool

The step function `PoolState.next` is read once here as an inductive relation, one constructor for
each kind of step with its guards, so that a fact about every reachable pool is a case analysis on
the constructors and never opens the step function again.

The places of a call that the pool's totals depend on are named here: whether the call's task was
sent, whether its send was counted, and whether the call is in flight past its shutdown check.
Where a task is held is named too: in a worker's hands before it starts, or executing.
-/

namespace HostDispatch

open Pool Relation

namespace Pool

namespace CallPc

/-- The task of a call at this place went into the channel. -/
def sent : CallPc → Bool
  | .counting => true
  | .leaving r | .returned r => r.toBool
  | _ => false

/-- The send of a call at this place is counted in the pool's total. -/
def counted : CallPc → Bool
  | .leaving r | .returned r => r.toBool
  | _ => false

/-- A call at this place passed the shutdown check and has not yet given up or returned. -/
def inFlight : CallPc → Bool
  | .prechecking | .selecting | .counting => true
  | .leaving r => r.toBool
  | _ => false

end CallPc

namespace WorkerPc

/-- The worker holds task `j` and has not started it. -/
def holds (j : Nat) : WorkerPc → Bool
  | .running t _ => t == j
  | _ => false

/-- The worker executes task `j`. -/
def runs (j : Nat) : WorkerPc → Bool
  | .executing t _ => t == j
  | _ => false

/-- The worker took the closed drain: it never waits for a task again. -/
def drained : WorkerPc → Bool
  | .draining | .exited => true
  | .running _ d | .executing _ d => d
  | .waiting => false

end WorkerPc

theorem Call.holdsLock_of_inFlight {c : Call} (h : c.pc.inFlight = true) : c.holdsLock = true := by
  unfold Call.holdsLock
  revert h
  cases c.pc <;> simp [CallPc.inFlight]

@[simp] theorem Call.selecting_eq_true {c : Call} : c.selecting = true ↔ c.pc = .selecting := by
  unfold Call.selecting
  cases c.pc <;> simp

@[simp] theorem Call.blocked_eq_true {c : Call} :
    c.blocked = true ↔ c.pc = .selecting ∧ c.trying = false := by
  unfold Call.blocked
  cases c.pc <;> simp

end Pool

namespace PoolState

variable {s s' : PoolState}

/-! ## Updates -/

section Updates

variable (s : PoolState) (i w : Nat) (c : Call) (pc : CallPc) (q : WorkerPc)

@[simp] theorem moveCall_eq : s.moveCall i c pc = s.setCall i { c with pc := pc } := rfl
@[simp] theorem setCall_calls : (s.setCall i c).calls = s.calls.set i c := rfl
@[simp] theorem setCall_workers : (s.setCall i c).workers = s.workers := rfl
@[simp] theorem setCall_buffer : (s.setCall i c).buffer = s.buffer := rfl
@[simp] theorem setCall_shutdown : (s.setCall i c).shutdown = s.shutdown := rfl
@[simp] theorem setCall_submitted : (s.setCall i c).submitted = s.submitted := rfl
@[simp] theorem setCall_completed : (s.setCall i c).completed = s.completed := rfl
@[simp] theorem setCall_executed : (s.setCall i c).executed = s.executed := rfl
@[simp] theorem setCall_reports : (s.setCall i c).reports = s.reports := rfl
@[simp] theorem setCall_config : (s.setCall i c).config = s.config := rfl
@[simp] theorem setCall_capacity : (s.setCall i c).capacity = s.capacity := rfl
@[simp] theorem setWorker_workers : (s.setWorker w q).workers = s.workers.set w q := rfl
@[simp] theorem setWorker_calls : (s.setWorker w q).calls = s.calls := rfl
@[simp] theorem setWorker_buffer : (s.setWorker w q).buffer = s.buffer := rfl
@[simp] theorem setWorker_shutdown : (s.setWorker w q).shutdown = s.shutdown := rfl
@[simp] theorem setWorker_submitted : (s.setWorker w q).submitted = s.submitted := rfl
@[simp] theorem setWorker_completed : (s.setWorker w q).completed = s.completed := rfl
@[simp] theorem setWorker_executed : (s.setWorker w q).executed = s.executed := rfl
@[simp] theorem setWorker_reports : (s.setWorker w q).reports = s.reports := rfl
@[simp] theorem setWorker_config : (s.setWorker w q).config = s.config := rfl
@[simp] theorem setWorker_capacity : (s.setWorker w q).capacity = s.capacity := rfl

end Updates

/-! ## The steps, read off the step function -/

/-- The steps of a call `c` that change nothing but its place, each with its guard. -/
inductive CallMove (s : PoolState) (c : Call) : CallPc → Prop
  | begin : c.pc = .start → c.job.isSome = true → CallMove s c .locking
  | missing : c.pc = .start → c.job = none → CallMove s c (.returned (.error missingTask))
  | lock : c.pc = .locking → s.writerHeld = false → CallMove s c .checking
  | late : c.pc = .checking → s.isShutdown = true → CallMove s c (.leaving (.error closedFault))
  | select : c.pc = .checking → s.isShutdown = false → c.trying = true → CallMove s c .selecting
  | precheck : c.pc = .checking → s.isShutdown = false → c.trying = false →
      CallMove s c .prechecking
  | canceledEarly : c.pc = .prechecking → c.canceled = true →
      CallMove s c (.leaving (.error canceledFault))
  | proceed : c.pc = .prechecking → c.canceled = false → CallMove s c .selecting
  | closed : c.pc = .selecting → s.shutdownClosed = true →
      CallMove s c (.leaving (.error closedFault))
  | canceled : c.pc = .selecting → c.canceled = true →
      CallMove s c (.leaving (.error canceledFault))
  | full : c.pc = .selecting → c.trying = true → s.sendReady = false → s.shutdownClosed = false →
      CallMove s c (.leaving (.error (capacityFault s.buffer.length)))
  | leave {r} : c.pc = .leaving r → CallMove s c (.returned r)

/-- The steps of the shutdown, each with its guard. -/
inductive ShutdownMove (s : PoolState) : ShutdownPc → Prop
  | close : s.shutdown = .idle → ShutdownMove s .locking
  | lock : s.shutdown = .locking → s.readers = 0 → ShutdownMove s .flagging
  | flag : s.shutdown = .flagging → ShutdownMove s .unlocking
  | unlock : s.shutdown = .unlocking → ShutdownMove s .draining
  | drain : s.shutdown = .draining → ShutdownMove s .waiting
  | finish : s.shutdown = .waiting → (∀ q ∈ s.workers, q = .exited) → ShutdownMove s .finished

/-- One step of one goroutine of a pool. -/
inductive Step : PoolState → PoolState → Prop
  | submit (s : PoolState) (job : Option Job) (trying cancelable : Bool) :
      Step s { s with calls := s.calls ++ [{ job := job, trying := trying, cancelable := cancelable }] }
  | cancel {s i c} : s.calls[i]? = some c → c.cancelable = true → c.canceled = false →
      Step s (s.setCall i { c with canceled := true })
  | move {s i c pc} : s.calls[i]? = some c → CallMove s c pc → Step s (s.moveCall i c pc)
  | count {s i c} : s.calls[i]? = some c → c.pc = .counting →
      Step s { s.moveCall i c (.leaving (.ok ())) with submitted := s.submitted + 1 }
  | send {s i c} : s.calls[i]? = some c → c.pc = .selecting → s.buffer.length < s.capacity →
      Step s { s.moveCall i c .counting with buffer := s.buffer ++ [i] }
  | handoff {s i c w} : s.calls[i]? = some c → c.pc = .selecting → s.capacity = 0 →
      s.workers[w]? = some .waiting →
      Step s ((s.moveCall i c .counting).setWorker w (.running i false))
  | receive {s w j rest} : s.workers[w]? = some .waiting → s.buffer = j :: rest →
      Step s { s.setWorker w (.running j false) with buffer := rest }
  | drain {s w} : s.workers[w]? = some .waiting → s.drainClosed = true →
      Step s (s.setWorker w .draining)
  | drainReceive {s w j rest} : s.workers[w]? = some .draining → s.buffer = j :: rest →
      Step s { s.setWorker w (.running j true) with buffer := rest }
  | take {s w i c} : s.workers[w]? = some .draining → s.capacity = 0 → s.calls[i]? = some c →
      c.pc = .selecting → c.trying = false →
      Step s ((s.moveCall i c .counting).setWorker w (.running i true))
  | exit {s w} : s.workers[w]? = some .draining → s.buffer = [] → s.senderBlocked = false →
      Step s (s.setWorker w .exited)
  | execute {s w j d} : s.workers[w]? = some (.running j d) →
      Step s { s.setWorker w (.executing j d) with executed := s.executed ++ [j] }
  | complete {s w j d} : s.workers[w]? = some (.executing j d) →
      Step s { s.setWorker w (if d then .draining else .waiting) with
        completed := s.completed + 1
        reports := if s.config.configured then s.reports ++ [s.report j] else s.reports }
  | shutdown {s pc} : ShutdownMove s pc → Step s { s with shutdown := pc }

section Inversion

variable {i w : Nat} {c : Call}

theorem callStep_step {pick : CallPick} (hc : s.calls[i]? = some c)
    (h : s.callStep i c pick = some s') : Step s s' := by
  cases pick with
  | step =>
    cases hpc : c.pc <;> simp only [callStep, hpc, reduceCtorEq] at h
    case start =>
      cases hj : c.job with
      | none => simp only [hj, Option.isSome_none] at h; cases h; exact .move hc (.missing hpc hj)
      | some _ =>
        simp only [hj, Option.isSome_some] at h; cases h; exact .move hc (.begin hpc (by simp [hj]))
    case locking =>
      split at h
      · cases h
      · rename_i hw
        cases h; exact .move hc (.lock hpc (by simpa using hw))
    case checking =>
      cases hs : s.isShutdown
      · cases ht : c.trying <;> simp only [hs, ht] at h <;> cases h
        · exact .move hc (.precheck hpc hs ht)
        · exact .move hc (.select hpc hs ht)
      · simp only [hs] at h; cases h; exact .move hc (.late hpc hs)
    case prechecking =>
      cases hk : c.canceled <;> simp only [hk] at h <;> cases h
      · exact .move hc (.proceed hpc hk)
      · exact .move hc (.canceledEarly hpc hk)
    case counting => cases h; exact .count hc hpc
    case leaving r => cases h; exact .move hc (.leave hpc)
  | send =>
    simp only [callStep] at h
    split at h
    · simp only [Bool.and_eq_true, Call.selecting_eq_true, decide_eq_true_eq] at *
      cases h; exact .send hc ‹_ ∧ _›.1 ‹_ ∧ _›.2
    · cases h
  | handoff w =>
    simp only [callStep] at h
    split at h
    · rename_i hg
      simp only [Bool.and_eq_true, Call.selecting_eq_true, beq_iff_eq] at hg
      cases h; exact .handoff hc hg.1.1 hg.1.2 hg.2
    · cases h
  | closed =>
    simp only [callStep] at h
    split at h
    · rename_i hg
      simp only [Bool.and_eq_true, Call.selecting_eq_true] at hg
      cases h; exact .move hc (.closed hg.1 hg.2)
    · cases h
  | canceled =>
    simp only [callStep] at h
    split at h
    · rename_i hg
      simp only [Bool.and_eq_true, Call.selecting_eq_true] at hg
      cases h; exact .move hc (.canceled hg.1 hg.2)
    · cases h
  | full =>
    simp only [callStep] at h
    split at h
    · rename_i hg
      simp only [Bool.and_eq_true, Call.selecting_eq_true, Bool.not_eq_true'] at hg
      cases h; exact .move hc (.full hg.1.1.1 hg.1.1.2 hg.1.2 hg.2)
    · cases h

theorem workerStep_step {q : WorkerPc} {pick : WorkerPick} (hw : s.workers[w]? = some q)
    (h : s.workerStep w q pick = some s') : Step s s' := by
  cases q <;> cases pick <;> simp only [workerStep, reduceCtorEq] at h
  case waiting.receive =>
    split at h
    · cases h; exact .receive hw ‹_›
    · cases h
  case waiting.drain =>
    split at h
    · cases h; exact .drain hw ‹_›
    · cases h
  case draining.receive =>
    split at h
    · cases h; exact .drainReceive hw ‹_›
    · cases h
  case draining.take i =>
    split at h
    · rename_i c hc
      split at h
      · rename_i hg
        simp only [Bool.and_eq_true, beq_iff_eq, Call.blocked_eq_true] at hg
        cases h; exact .take hw hg.1 hc hg.2.1 hg.2.2
      · cases h
    · cases h
  case draining.exit =>
    split at h
    · rename_i hg
      simp only [Bool.and_eq_true, List.isEmpty_iff, Bool.not_eq_true'] at hg
      cases h; exact .exit hw hg.1 hg.2
    · cases h
  case running.step => cases h; exact .execute hw
  case executing.step => cases h; exact .complete hw

theorem shutdownStep_step (h : s.shutdownStep = some s') : Step s s' := by
  unfold shutdownStep at h
  split at h
  · cases h; exact .shutdown (.close ‹_›)
  · split at h
    · rename_i hr
      cases h; exact .shutdown (.lock ‹_› (by simpa using hr))
    · cases h
  · cases h; exact .shutdown (.flag ‹_›)
  · cases h; exact .shutdown (.unlock ‹_›)
  · cases h; exact .shutdown (.drain ‹_›)
  · split at h
    · rename_i hg
      cases h; exact .shutdown (.finish ‹_› (by simpa using hg))
    · cases h
  · cases h

/-- Every step the step function takes is a `Step`. -/
theorem step_of_next {a : Act} (h : s.next a = some s') : Step s s' := by
  cases a with
  | submit job trying cancelable => cases h; exact .submit s job trying cancelable
  | cancel i =>
    simp only [next] at h
    split at h
    · split at h
      · rename_i c hc hg
        simp only [Bool.and_eq_true, Bool.not_eq_true'] at hg
        cases h; exact .cancel hc hg.1 hg.2
      · cases h
    · cases h
  | call i pick =>
    simp only [next] at h
    split at h
    · exact callStep_step ‹_› h
    · cases h
  | worker w pick =>
    simp only [next] at h
    split at h
    · exact workerStep_step ‹_› h
    · cases h
  | shutdown => exact shutdownStep_step h

end Inversion

/-! ## Runs -/

/-- The pools a pool can become, its goroutines taking their steps in any order. -/
def Reaches (s s' : PoolState) : Prop := ReflTransGen (fun a b => ∃ act, a.next act = some b) s s'

/-- What holds of a pool and is kept by every step holds of every pool it can become. -/
theorem Reaches.invariant {P : PoolState → Prop} (hr : s.Reaches s') (h₀ : P s)
    (hstep : ∀ a b, P a → Step a b → P b) : P s' := by
  induction hr with
  | refl => exact h₀
  | tail _ hab ih =>
    obtain ⟨act, hact⟩ := hab
    exact hstep _ _ ih (step_of_next hact)

theorem Reaches.trans {s'' : PoolState} (h₁ : s.Reaches s') (h₂ : s'.Reaches s'') :
    s.Reaches s'' :=
  ReflTransGen.trans h₁ h₂

theorem Reaches.of_next {a : Act} (h : s.next a = some s') : s.Reaches s' :=
  ReflTransGen.single ⟨a, h⟩

/-- Taking steps in order, passing over those that cannot be taken, is a run. -/
theorem reaches_steps (acts : List Act) : s.Reaches (s.steps acts) := by
  induction acts generalizing s with
  | nil => exact ReflTransGen.refl
  | cons a acts ih =>
    have hs : s.steps (a :: acts) = ((s.next a).getD s).steps acts := rfl
    rw [hs]
    cases ha : s.next a with
    | none => exact ih
    | some t => exact (Reaches.of_next ha).trans ih

end PoolState

end HostDispatch
