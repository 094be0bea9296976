import HostDispatch.Proofs.Pool.ExactlyOnce

/-!
# A try run alone

`Pool.offer` is a TrySubmit call of the pool's machine, run alone until it returns. A shutdown
that holds the write lock lets go of it first; the call's path is then fixed by flags of the pool
that its own steps leave alone: whether the shutdown flag is set, whether a send can go through,
and whether the shutdown channel is closed. So the try never blocks, and it answers as `tryAnswer`
says (`result_offer`): accepted, closed, or refused for want of room.

Whatever the pool's goroutines do afterwards, once the pool is done the tried task was started
once if the try was accepted and never otherwise (`executed_count_after_offer`).
-/

namespace HostDispatch

open Pool

namespace PoolState

variable {s : PoolState} {j : Nat}

/-- The pool once a shutdown that holds the write lock has let go of it. -/
def released (s : PoolState) : PoolState :=
  { s with shutdown := if s.writerHeld then .draining else s.shutdown }

/-- What a try answers in a pool: closed once the flag is set; accepted when a send can go
through; closed once the shutdown channel is closed; and otherwise refused for want of room. -/
def tryAnswer (s : PoolState) : Except Fault Unit :=
  if s.isShutdown then .error closedFault
  else if s.sendReady then .ok ()
  else if s.shutdownClosed then .error closedFault
  else .error (capacityFault s.buffer.length)

/-- A try is accepted, or refused as closed or for want of room. -/
theorem tryAnswer_cases (s : PoolState) :
    s.tryAnswer = .ok () ∨ s.tryAnswer = .error closedFault ∨
      s.tryAnswer = .error (capacityFault s.buffer.length) := by
  unfold tryAnswer
  split_ifs <;> simp

theorem steps_cons (s : PoolState) (a : Act) (acts : List Act) :
    s.steps (a :: acts) = ((s.next a).getD s).steps acts := rfl

theorem steps_nil (s : PoolState) : s.steps [] = s := rfl

theorem steps_append (s : PoolState) (l₁ l₂ : List Act) :
    s.steps (l₁ ++ l₂) = (s.steps l₁).steps l₂ :=
  List.foldl_append

theorem writerHeld_released : s.released.writerHeld = false := by
  unfold released writerHeld
  cases s.shutdown <;> simp

theorem steps_release (s : PoolState) : s.steps (release s.shutdown) = s.released := by
  rcases s with ⟨cfg, cap, buf, calls, ws, sh, sub, comp, ex, rep⟩
  cases sh <;> rfl

theorem getElem?_idxOf_waiting {l : List WorkerPc} :
    l[l.idxOf .waiting]? = some .waiting ↔ .waiting ∈ l :=
  ⟨List.mem_of_getElem?, List.getElem?_idxOf⟩

/-- A try in a pool whose write lock is free, run alone, returns what `tryAnswer` says. -/
theorem result_try (hw : s.writerHeld = false) (job : Job) :
    (s.steps [.submit (some job) true false, .call s.calls.length .step,
      .call s.calls.length .step, .call s.calls.length .step, .call s.calls.length .send,
      .call s.calls.length (.handoff (s.workers.idxOf .waiting)), .call s.calls.length .closed,
      .call s.calls.length .full, .call s.calls.length .step,
      .call s.calls.length .step]).result s.calls.length = some s.tryAnswer := by
  simp only [writerHeld, Bool.or_eq_false_iff, beq_eq_false_iff_ne] at hw
  unfold tryAnswer
  -- the call's path is decided by the flags, and its own steps leave them as they are
  by_cases hs : 3 ≤ s.shutdown.rank
  · simp [steps_cons, steps_nil, next, callStep, hw, hs, result, writerHeld, moveCall, setCall,
      Call.selecting, isShutdown]
  by_cases hb : s.buffer.length < s.capacity
  · simp [steps_cons, steps_nil, next, callStep, hw, hs, hb, result, writerHeld, moveCall,
      setCall, Call.selecting, isShutdown, sendReady]
  by_cases hh : s.capacity = 0 ∧ .waiting ∈ s.workers
  · simp [steps_cons, steps_nil, next, callStep, hw, hs, hh, result, writerHeld, moveCall,
      setCall, setWorker, Call.selecting, isShutdown, sendReady]
  by_cases hc : 1 ≤ s.shutdown.rank
  · simp [steps_cons, steps_nil, next, callStep, hw, hs, hb, hh, hc, result, writerHeld,
      moveCall, setCall, Call.selecting, isShutdown, sendReady, shutdownClosed,
      getElem?_idxOf_waiting]
  · simp [steps_cons, steps_nil, next, callStep, hw, hs, hb, hh, not_and_or.mp hh, hc, result,
      writerHeld, moveCall, setCall, Call.selecting, isShutdown, sendReady, shutdownClosed,
      getElem?_idxOf_waiting]

/-- A try never blocks: run alone, it returns what the pool answers once a shutdown that holds
the write lock has let go of it. -/
theorem result_offer (s : PoolState) (job : Job) :
    (s.steps (offer s job)).result s.calls.length = some s.released.tryAnswer := by
  dsimp only [offer]
  rw [steps_append, steps_release]
  exact result_try writerHeld_released job

theorem accepted_of_result {a : Except Fault Unit} (h : s.result j = some a) :
    s.accepted j = a.toBool := by
  cases a with
  | ok u => simpa [Except.toBool] using accepted_eq_true_iff.mpr h
  | error e =>
    cases ha : s.accepted j
    · rfl
    · rw [accepted_eq_true_iff.mp ha] at h
      cases h

/-- A task tried on a pool made from a configuration with a worker: whatever steps the pool takes
afterwards, once it is done the task was started once if the try was accepted and never
otherwise. -/
theorem executed_count_after_offer {cfg : PoolConfig} (hw : 0 < cfg.workers)
    (hs : (start cfg).Reaches s) (job : Job) {acts : List Act}
    (hd : ((s.steps (offer s job)).steps acts).done = true) :
    ((s.steps (offer s job)).steps acts).executed.count s.calls.length =
      s.released.tryAnswer.toBool.toNat := by
  have hr : (start cfg).Reaches ((s.steps (offer s job)).steps acts) :=
    hs.trans ((reaches_steps _).trans (reaches_steps _))
  -- the pool keeps a worker, so once it is done its buffer is empty
  have hws : 0 < ((s.steps (offer s job)).steps acts).workers.length := by
    rw [hr.config_eq.2.2]
    simp only [start, List.length_replicate]
    omega
  rw [(inv_of_reaches hr).executed_count_of_done hd hws,
    accepted_of_result ((reaches_steps acts).result_eq (result_offer s job))]

end PoolState

end HostDispatch
