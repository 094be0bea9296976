import HostDispatch.Proofs.Loop.Machine

/-!
# Closing a loop

Close sets the closed flag and drops the queue, cancels the loop's context, waits for the loop's
goroutine to return and, for a pool the loop made, waits until the pool is done. Main statement:
for a loop that owns its pool, whatever its callers and goroutines do, when Close returns every
firing the loop took from its queue was submitted to the pool, in order, and was either run once
by the pool or refused by it and counted once as dropped. A handler runs exactly when the pool
starts the delivery of a firing of its continuation and the continuation was not destroyed, and
once Close has returned no handler runs, nothing is pending, scheduling and making continuations
fail as closed, canceling does nothing and Close does nothing.

The invariant `Loop.Accounts` carries it: every call of the pool but the one the loop's goroutine
waits on has returned, and the dropped count grew by the number of those refused.
-/

namespace HostDispatch

open Pool

/-- The number of `j < n` where two predicates that differ only at `i` hold, against each other. -/
theorem countP_range_update {p q : Nat → Bool} {i : Nat} (hpq : ∀ j, j ≠ i → p j = q j) :
    ∀ {n}, i < n → (List.range n).countP p + (q i).toNat = (List.range n).countP q + (p i).toNat
  | 0, h => absurd h (Nat.not_lt_zero i)
  | n + 1, h => by
    simp only [List.range_succ, List.countP_append, List.countP_singleton]
    by_cases hin : i = n
    · subst hin
      have hsame : (List.range i).countP p = (List.range i).countP q :=
        List.countP_congr fun j hj => by rw [hpq j (Nat.ne_of_lt (List.mem_range.mp hj))]
      rw [hsame]
      cases p i <;> cases q i <;> simp
    · have ih := countP_range_update hpq (n := n) (by omega)
      rw [hpq n (Ne.symm hin)]
      omega

namespace PoolState

variable {s s' : PoolState} {t : Option Nat} {i j : Nat} {r : Except Fault Unit}

/-- Whether call `j` returned with a fault. -/
def refused (s : PoolState) (j : Nat) : Bool :=
  match s.result j with
  | some (.error _) => true
  | _ => false

/-- Every call but the one still waited on has returned. -/
def Settled (s : PoolState) (waiting : Option Nat) : Prop :=
  ∀ j < s.calls.length, waiting ≠ some j → (s.result j).isSome

/-- The calls refused, but the one still waited on. -/
def refusals (s : PoolState) (waiting : Option Nat) : Nat :=
  (List.range s.calls.length).countP fun j => decide (waiting ≠ some j) && s.refused j

theorem refused_of_result (h : s.result j = some r) :
    s.refused j = match r with
      | .ok _ => false
      | .error _ => true := by
  cases r <;> simp [refused, h]

theorem Reaches.done_of_done (h : s.Reaches s') (hd : s.done = true) : s'.done = true :=
  h.invariant hd fun _ _ hd hs => hs.done_of_done hd

/-- Moving the pool along its own steps, with no new call, keeps the calls that returned. -/
theorem Settled.reaches (hs : s.Settled t) (hr : s.Reaches s')
    (hlen : s'.calls.length = s.calls.length) : s'.Settled t := by
  intro j hj ht
  obtain ⟨r, hres⟩ := Option.isSome_iff_exists.mp (hs j (hlen ▸ hj) ht)
  simp [hr.result_eq hres]

/-- Moving the pool along its own steps, with no new call, keeps the refusals. -/
theorem refusals_reaches (hs : s.Settled t) (hr : s.Reaches s')
    (hlen : s'.calls.length = s.calls.length) : s'.refusals t = s.refusals t := by
  unfold refusals
  rw [hlen]
  refine List.countP_congr fun j hj => ?_
  by_cases ht : t = some j
  · simp [ht]
  · obtain ⟨r, hres⟩ := Option.isSome_iff_exists.mp (hs j (List.mem_range.mp hj) ht)
    rw [refused, refused, hr.result_eq hres, hres]

/-- Once the call waited on has returned, the refusals count it too. -/
theorem refusals_settle (hi : i < s.calls.length) :
    s.refusals none = s.refusals (some i) + (s.refused i).toNat := by
  unfold refusals
  have := countP_range_update (i := i) (p := fun j => decide (some i ≠ some j) && s.refused j)
    (q := fun j => decide (none ≠ some j) && s.refused j) (fun j hj => by simp [Ne.symm hj]) hi
  simp only [ne_eq, not_true_eq_false, decide_false, Bool.false_and, Bool.toNat_false,
    Nat.add_zero, reduceCtorEq, not_false_eq_true, decide_true, Bool.true_and] at this ⊢
  omega

/-- A new call, waited on, adds no refusal. -/
theorem refusals_push {c : Call} (hc : s'.calls = s.calls ++ [c]) :
    s'.refusals (some s.calls.length) = s.refusals none := by
  unfold refusals
  rw [hc, List.length_append, List.length_singleton, List.range_succ, List.countP_append]
  simp only [ne_eq, not_true_eq_false, decide_false, Bool.false_and, List.countP_singleton,
    Bool.false_eq_true, ↓reduceIte, Nat.add_zero, reduceCtorEq, not_false_eq_true, decide_true,
    Bool.true_and]
  refine List.countP_congr fun j hj => ?_
  have hj' := List.mem_range.mp hj
  have hres : s'.result j = s.result j := by
    simp [result, hc, List.getElem?_append_left hj']
  simp [Nat.ne_of_gt hj', refused, hres]

end PoolState

/-- The call the loop's goroutine waits on. -/
def Turn.call : Turn → Option Nat
  | .submitting i _ => some i
  | _ => none

@[simp] theorem call_after (rest : List Firing) : (Loop.Turn.after rest).call = none := by
  cases rest <;> rfl

@[simp] theorem call_idle : Turn.idle.call = none := rfl
@[simp] theorem call_exited : Turn.exited.call = none := rfl
@[simp] theorem call_delivering (f : Firing) (rest : List Firing) :
    (Turn.delivering f rest).call = none := rfl
@[simp] theorem call_submitting (i : Nat) (rest : List Firing) :
    (Turn.submitting i rest).call = some i := rfl

/-- Close has seen the loop's goroutine return. -/
def Closing.joined : Closing → Bool
  | .draining _ | .finished => true
  | _ => false

namespace Loop

variable {l l' : Loop} {base : Int}

/-! ## The goroutine's submit -/

/-- A submit makes one call of the pool, canceled at once when the loop's context is. -/
theorem submit_pool_calls (f : Firing) (rest : List Firing) :
    (l.submit f rest).pool.calls = l.pool.calls ++
      [{ job := some .succeed, trying := false, cancelable := true, canceled := l.canceledCtx }] := by
  simp only [submit]
  rw [show ∀ g, (l.count g).canceledCtx = l.canceledCtx from fun _ => rfl]
  cases l.canceledCtx <;> simp [PoolState.steps, PoolState.next, PoolState.setCall]

theorem submit_pool_reaches (f : Firing) (rest : List Firing) :
    l.pool.Reaches (l.submit f rest).pool :=
  PoolState.reaches_steps _

theorem submit_executed (f : Firing) (rest : List Firing) :
    (l.submit f rest).pool.executed = l.pool.executed := by
  simp only [submit]
  rw [show ∀ g, (l.count g).canceledCtx = l.canceledCtx from fun _ => rfl]
  -- neither a new call nor a cancel starts a task
  have hnone : ∀ a ∈ (Act.submit (some .succeed) false true ::
      if l.canceledCtx = true then [Act.cancel l.pool.calls.length] else []),
      ∀ s : PoolState, s.starting a = none := by
    intro a ha s
    simp at ha
    rcases ha with rfl | ⟨-, rfl⟩ <;> rfl
  exact PoolState.steps_executed (fun a ha => hnone a ha _) hnone

theorem submit_metric (f : Firing) (rest : List Firing) :
    (l.submit f rest).metric .deliveriesDropped [l.config.name] =
      l.metric .deliveriesDropped [l.config.name] :=
  metric_count_other fun r => by
    split <;> simp [Metrics.Registry.value_add, Metrics.Registry.value_inc]

/-- Reading a refusal counts one dropped firing. -/
theorem settle_metric (hm : l.metrics.isSome = true) (r : Except Fault Unit) (i : Nat)
    (rest : List Firing) :
    (l.settle r i rest).metric .deliveriesDropped [l.config.name] =
      l.metric .deliveriesDropped [l.config.name] + match r with
        | .ok _ => 0
        | .error _ => 1 := by
  cases r with
  | ok => simp [settle, metric]
  | error e =>
    simp only [settle]
    rw [show ∀ l₁ : Loop, (l₁.report .warn "firing not delivered" _).metric
      .deliveriesDropped [l.config.name] = l₁.metric .deliveriesDropped [l.config.name]
      from fun _ => rfl]
    exact metric_count_inc (l := { l with turn := Turn.after rest }) hm _ _

/-! ## The invariant -/

/-- What holds along every run of a loop that owns its pool, `base` being the dropped count it
started from. -/
structure Accounts (base : Int) (l : Loop) : Prop where
  pool : l.pool.Inv
  workers : 0 < l.pool.workers.length
  own : l.config.delivery = .own
  registry : l.metrics.isSome = true
  /-- Each call of the pool submitted one firing. -/
  deliveries : l.deliveries.length = l.pool.calls.length
  /-- The goroutine waits on the last call. -/
  waiting : ∀ i rest, l.turn = .submitting i rest → i + 1 = l.pool.calls.length
  settled : l.pool.Settled l.turn.call
  /-- Each refusal the goroutine has read was counted once as a dropped firing. -/
  dropped : l.metric .deliveriesDropped [l.config.name] = base + l.pool.refusals l.turn.call
  emptied : l.closed = true → l.queue.entries = []
  exited : l.closing.joined = true → l.turn = .exited
  done : l.closing = .finished → l.pool.done = true

/-- A step that keeps what the accounts read of a loop keeps them. -/
theorem Accounts.of_frame (ha : Accounts base l) (hpool : l'.pool = l.pool) (hturn : l'.turn = l.turn)
    (hclosing : l'.closing = l.closing) (hdel : l'.deliveries = l.deliveries)
    (hcfg : l'.config = l.config) (hreg : l'.metrics.isSome = l.metrics.isSome)
    (hdrop : l'.metric .deliveriesDropped [l.config.name] = l.metric .deliveriesDropped [l.config.name])
    (hqueue : l.closed = true → l'.queue = l.queue) : Accounts base l' where
  pool := hpool ▸ ha.pool
  workers := hpool ▸ ha.workers
  own := hcfg ▸ ha.own
  registry := hreg ▸ ha.registry
  deliveries := by rw [hdel, hpool]; exact ha.deliveries
  waiting := by rw [hturn, hpool]; exact ha.waiting
  settled := by rw [hturn, hpool]; exact ha.settled
  dropped := by rw [hcfg, hdrop, hpool, hturn]; exact ha.dropped
  emptied := fun h => by
    have hc : l.closed = true := by simpa [closed, hclosing] using h
    rw [hqueue hc]
    exact ha.emptied hc
  exited := by rw [hclosing, hturn]; exact ha.exited
  done := by rw [hclosing, hpool]; exact ha.done

theorem Accounts.quiet (ha : Accounts base l) (hq : Quiet l l') : Accounts base l' :=
  ha.of_frame hq.pool hq.turn hq.closing hq.deliveries hq.config hq.registry hq.dropped hq.queue

theorem Accounts.handled (ha : Accounts base l) (hh : Handled l l') : Accounts base l' :=
  ha.of_frame hh.pool hh.turn hh.closing hh.deliveries hh.config (by rw [hh.metrics])
    (by rw [metric, metric, hh.metrics]) (fun _ => hh.queue)

/-- Moving the pool along its own steps, with no new call, keeps the accounts. -/
theorem Accounts.movePool (ha : Accounts base l) {p : PoolState} (hr : l.pool.Reaches p)
    (hlen : p.calls.length = l.pool.calls.length) : Accounts base { l with pool := p } where
  pool := hr.invariant ha.pool fun _ _ hi hs => hs.inv hi
  workers := by rw [(PoolState.Reaches.config_eq hr).2.2]; exact ha.workers
  own := ha.own
  registry := ha.registry
  deliveries := by rw [hlen]; exact ha.deliveries
  waiting := by rw [hlen]; exact ha.waiting
  settled := ha.settled.reaches hr hlen
  dropped := by
    rw [PoolState.refusals_reaches ha.settled hr hlen]
    exact ha.dropped
  emptied := ha.emptied
  exited := ha.exited
  done := fun hf => hr.done_of_done (ha.done hf)

/-- Waking on an empty queue takes nothing. -/
theorem takeDue_of_nil {now : Time} {q : Queue} (h : q.entries = []) (fuel : Nat) :
    takeDue now fuel q = ([], q) := by
  cases fuel <;> simp [takeDue, Queue.popDue, h]

theorem Accounts.wake (ha : Accounts base l) (hturn : l.turn = .idle) {batch : List Firing}
    {q : Queue} (ht : takeDue l.now (l.queue.size + 1) l.queue = (batch, q)) :
    Accounts base { l with queue := q, turn := Turn.after batch } where
  pool := ha.pool
  workers := ha.workers
  own := ha.own
  registry := ha.registry
  deliveries := ha.deliveries
  waiting := fun i rest h => by cases batch <;> simp [Turn.after] at h
  settled := by simpa [hturn] using ha.settled
  dropped := by simpa [hturn, metric] using ha.dropped
  emptied := fun h => by
    -- a closed loop's queue is empty, and waking takes nothing from it
    have he := ha.emptied h
    rw [takeDue_of_nil he, Prod.mk.injEq] at ht
    rw [← ht.2]
    exact he
  exited := fun hj => by simp [ha.exited hj] at hturn
  done := ha.done

theorem Accounts.submit (ha : Accounts base l) {f : Firing} {rest : List Firing}
    (hturn : l.turn = .delivering f rest) : Accounts base (l.submit f rest) where
  pool := (submit_pool_reaches f rest).invariant ha.pool fun _ _ hi hs => hs.inv hi
  workers := by
    rw [(PoolState.Reaches.config_eq (submit_pool_reaches f rest)).2.2]
    exact ha.workers
  own := ha.own
  registry := by simpa [Loop.submit] using ha.registry
  deliveries := by simp [submit_pool_calls, ha.deliveries]
  waiting := fun i rest' h => by
    simp only [submit_turn, Turn.submitting.injEq] at h
    simp [submit_pool_calls, h.1]
  settled := fun j hj hne => by
    have hj' : j < l.pool.calls.length := by
      simp only [submit_pool_calls, List.length_append, List.length_singleton] at hj
      simp only [submit_turn, call_submitting, ne_eq, Option.some.injEq] at hne
      omega
    have hres : (l.submit f rest).pool.result j = l.pool.result j := by
      simp [PoolState.result, submit_pool_calls, List.getElem?_append_left hj']
    rw [hres]
    exact ha.settled j hj' (by simp [hturn])
  dropped := by
    rw [submit_config, submit_metric, submit_turn, call_submitting,
      PoolState.refusals_push (submit_pool_calls f rest)]
    simpa [hturn] using ha.dropped
  emptied := fun h => by simpa using ha.emptied (by simpa [closed] using h)
  exited := fun hj => by simp [ha.exited (by simpa using hj)] at hturn
  done := fun hf => (submit_pool_reaches f rest).done_of_done (ha.done (by simpa using hf))

@[simp] theorem settle_registry (r : Except Fault Unit) (i : Nat) (rest : List Firing) :
    (l.settle r i rest).metrics.isSome = l.metrics.isSome := by
  cases r <;> simp [Loop.settle]

theorem Accounts.settle (ha : Accounts base l) {i : Nat} {rest : List Firing}
    {r : Except Fault Unit} (hturn : l.turn = .submitting i rest) (hr : l.pool.result i = some r) :
    Accounts base (l.settle r i rest) where
  pool := by simpa using ha.pool
  workers := by simpa using ha.workers
  own := by simpa using ha.own
  registry := by simpa using ha.registry
  deliveries := by simpa using ha.deliveries
  waiting := fun i' rest' h => by cases rest <;> simp [Turn.after] at h
  settled := fun j hj _ => by
    simp only [settle_pool] at hj ⊢
    by_cases hji : j = i
    · simp [hji, hr]
    · exact ha.settled j hj (by simp [hturn, Ne.symm hji])
  dropped := by
    have hi : i < l.pool.calls.length := by
      have := ha.waiting i rest hturn
      omega
    rw [settle_config, settle_metric ha.registry, settle_pool, settle_turn, call_after,
      PoolState.refusals_settle hi, PoolState.refused_of_result hr, ha.dropped, hturn,
      call_submitting]
    cases r with
    | ok => simp
    | error =>
      simp only [Bool.toNat_true, Nat.cast_add, Nat.cast_one]
      omega
  emptied := fun h => by simpa using ha.emptied (by simpa [closed] using h)
  exited := fun hj => by simp [ha.exited (by simpa using hj)] at hturn
  done := fun hf => by simpa using ha.done (by simpa using hf)

theorem Accounts.exit (ha : Accounts base l) (hturn : l.turn = .idle) :
    Accounts base { l with turn := .exited } where
  pool := ha.pool
  workers := ha.workers
  own := ha.own
  registry := ha.registry
  deliveries := ha.deliveries
  waiting := fun _ _ h => by cases h
  settled := by simpa [hturn] using ha.settled
  dropped := by simpa [hturn, metric] using ha.dropped
  emptied := ha.emptied
  exited := fun _ => rfl
  done := ha.done

/-- Close's steps keep the accounts when they keep the queue of a closed loop empty, and see the
goroutine return and the pool done where they say so. -/
theorem Accounts.reclose (ha : Accounts base l) {c : Closing} {q : Queue}
    (hq : c ≠ .open → q.entries = []) (hj : c.joined = true → l.turn = .exited)
    (hd : c = .finished → l.pool.done = true) :
    Accounts base { l with queue := q, closing := c } where
  pool := ha.pool
  workers := ha.workers
  own := ha.own
  registry := ha.registry
  deliveries := ha.deliveries
  waiting := ha.waiting
  settled := ha.settled
  dropped := ha.dropped
  emptied := fun h => hq (by simpa [closed] using h)
  exited := hj
  done := hd

theorem Accounts.log (ha : Accounts base l) (s : Severity) (m : String) (fs : List Log.Field) :
    Accounts base (l.log s m fs) :=
  ha.of_frame (by simp) (by simp) (by simp) (by simp) (by simp) (by simp) (by simp [metric])
    (fun _ => by simp)

theorem Accounts.drop (ha : Accounts base l) :
    Accounts base (if l.queue.size = 0 then
          { l with queue := { l.queue with entries := [] }, closing := .canceling l.queue.size }
        else { l with queue := { l.queue with entries := [] }, closing := .canceling l.queue.size }.count
          fun m => m.add .actionsPending [l.config.name] (-(l.queue.size : Int))) := by
  have hl : Accounts base
      { l with queue := { l.queue with entries := [] }, closing := .canceling l.queue.size } :=
    ha.reclose (fun _ => rfl) (fun h => by simp [Closing.joined] at h) (fun h => by cases h)
  split
  · exact hl
  · exact hl.of_frame rfl rfl rfl rfl rfl (by simp)
      (metric_count_other fun r => by simp [Metrics.Registry.value_add]) (fun _ => rfl)

theorem Accounts.cancelAll (ha : Accounts base l) {n : Nat} (hc : l.closing = .canceling n) :
    Accounts base { l with pool := l.pool.steps ((List.range l.pool.calls.length).map .cancel),
                           closing := .joining n } :=
  (ha.movePool (PoolState.reaches_steps _)
    (PoolState.steps_calls_length (by simp [Act.isSubmit]))).reclose (q := l.queue)
    (fun _ => ha.emptied (by simp [closed, hc])) (fun h => by simp [Closing.joined] at h)
    (fun h => by cases h)

theorem Accounts.join (ha : Accounts base l) {n : Nat} (hc : l.closing = .joining n)
    (hturn : l.turn = .exited) : Accounts base { l with closing := .draining n } :=
  ha.reclose (q := l.queue) (fun _ => ha.emptied (by simp [closed, hc])) (fun _ => hturn)
    (fun h => by cases h)

theorem Accounts.stop (ha : Accounts base l) {n : Nat} (hc : l.closing = .draining n)
    (hd : l.pool.done = true) : Accounts base (l.stop n) :=
  (ha.reclose (q := l.queue) (c := .finished) (fun _ => ha.emptied (by simp [closed, hc]))
    (fun _ => ha.exited (by simp [hc, Closing.joined])) (fun _ => hd)).log _ _ _

theorem isSubmit_of_starting {s : PoolState} {a : Act} {j : Nat} (h : s.starting a = some j) :
    a.isSubmit = false := by
  cases a <;> simp_all [PoolState.starting, Act.isSubmit]

/-- Every step keeps the accounts. -/
theorem Step.accounts {fs : List Firing} (h : Step l fs l') (ha : Accounts base l) :
    Accounts base l' := by
  cases h with
  | quiet hq => exact ha.quiet hq
  | wake hturn ht => exact ha.wake hturn ht
  | submit hturn => exact ha.submit hturn
  | settle hturn hr => exact ha.settle hturn hr
  | exit hturn => exact ha.exit hturn
  | work hp hsub _ => exact ha.movePool (.of_next hp) ((PoolState.next_frame hp).2 hsub)
  | start hp hs =>
    exact (ha.movePool (.of_next hp) ((PoolState.next_frame hp).2
      (isSubmit_of_starting hs))).handled (startTask_handled _)
  | drop => exact ha.drop
  | cancelAll hc => exact ha.cancelAll hc
  | join hc hturn => exact ha.join hc hturn
  | leave _ _ hown => exact absurd ha.own hown
  | stop hc hd => exact ha.stop hc hd

theorem Accounts.reaches (ha : Accounts base l) (hr : l.Reaches l') : Accounts base l' :=
  hr.invariant ha fun _ _ _ ha h => h.accounts ha

theorem Step.config_eq {fs : List Firing} (h : Step l fs l') : l'.config = l.config := by
  cases h with
  | quiet hq => exact hq.config
  | start => exact (startTask_handled _).config
  | drop => split <;> rfl
  | settle => simp
  | leave => simp
  | stop => simp
  | _ => rfl

theorem Reaches.config_eq (hr : l.Reaches l') : l'.config = l.config :=
  Reaches.invariant (P := fun x => x.config = l.config) hr rfl fun _ _ _ h hs =>
    hs.config_eq.trans h

/-! ## A loop made to own its pool -/

theorem make_eq {cfg : LoopConfig} {m : Option Metrics.Registry} {lg : Log.Logger}
    (h : Loop.make cfg m lg = .ok l) :
    cfg.withDefaults.validate = .ok () ∧ l.pool = cfg.withDefaults.pool ∧
      l.config = cfg.withDefaults ∧ l.turn = .idle ∧ l.deliveries = [] ∧ l.closing = .open ∧
      l.metrics.isSome = m.isSome ∧ l.queue = {} := by
  unfold make at h
  cases hv : cfg.withDefaults.validate with
  | error e => simp [hv, bind, Except.bind] at h
  | ok u =>
    simp only [hv, bind, Except.bind, pure, Except.pure, Except.ok.injEq] at h
    subst h
    refine ⟨rfl, ?_, ?_, ?_, ?_, ?_, ?_, ?_⟩ <;> split <;> simp

/-- A loop that makes its own pool has workers. -/
theorem LoopConfig.workers_pos {c : LoopConfig} (h : c.validate = .ok ()) (hown : c.delivery = .own) :
    0 < c.workers := by
  by_cases hw : c.workers ≤ 0
  · simp [LoopConfig.validate, hown, Validation.positive, hw, bind, Except.bind] at h
  · omega

theorem accounts_make {cfg : LoopConfig} {reg : Metrics.Registry} {logger : Log.Logger}
    (hown : cfg.delivery = .own) (hmake : Loop.make cfg (some reg) logger = .ok l) :
    Accounts (l.metric .deliveriesDropped [l.config.name]) l := by
  obtain ⟨hv, hpool, hcfg, hturn, hdel, hclosing, hreg, -⟩ := make_eq hmake
  have hown' : cfg.withDefaults.delivery = .own := hown
  have hstart : l.pool = PoolState.start
      { name := cfg.withDefaults.name, workers := cfg.withDefaults.workers,
        queueSize := cfg.withDefaults.queueSize, panicHandler := true, configured := false } := by
    rw [hpool, LoopConfig.pool, hown']
  have hw := LoopConfig.workers_pos hv hown'
  exact {
    pool := hstart ▸ PoolState.inv_start _
    workers := by simp [hstart, PoolState.start]; omega
    own := hcfg ▸ hown'
    registry := by simp [hreg]
    deliveries := by simp [hdel, hstart, PoolState.start]
    waiting := fun _ _ h => by simp [hturn] at h
    settled := fun j hj => by simp [hstart, PoolState.start] at hj
    dropped := by simp [PoolState.refusals, hstart, PoolState.start]
    emptied := fun h => by simp [closed, hclosing] at h
    exited := fun h => by simp [hclosing, Closing.joined] at h
    done := fun h => by simp [hclosing] at h }

/-! ## When Close has returned -/

/-- When Close has returned, the loop's goroutine has returned, and each call of the pool ran its
task once or was refused, the refusals counted once each as dropped. -/
theorem Accounts.closed_out (ha : Accounts base l) (hf : l.closing = .finished) :
    l.turn = .exited ∧
    (∀ j < l.pool.calls.length,
      (l.pool.result j = some (.ok ()) ∧ l.pool.executed.count j = 1) ∨
      (∃ e, l.pool.result j = some (.error e) ∧ l.pool.executed.count j = 0)) ∧
    l.metric .deliveriesDropped [l.config.name] =
      base + (List.range l.pool.calls.length).countP l.pool.refused := by
  have hex : l.turn = .exited := ha.exited (by simp [hf, Closing.joined])
  have hd : l.pool.done = true := ha.done hf
  refine ⟨hex, fun j hj => ?_, ?_⟩
  · obtain ⟨r, hr⟩ := Option.isSome_iff_exists.mp (ha.settled j hj (by simp [hex]))
    have hcount := ha.pool.executed_count_of_done hd ha.workers j
    cases r with
    | ok u =>
      refine .inl ⟨hr, ?_⟩
      rw [hcount, PoolState.accepted_eq_true_iff.mpr hr]
      rfl
    | error e =>
      refine .inr ⟨e, hr, ?_⟩
      cases hacc : l.pool.accepted j with
      | false => rw [hcount, hacc]; rfl
      | true => simp [PoolState.accepted_eq_true_iff.mp hacc] at hr
  · simpa [hex, PoolState.refusals] using ha.dropped

/-- What stays once Close has returned, `l₁` being the loop when it returned. -/
structure Frozen (l₁ l : Loop) : Prop where
  finished : l.closing = .finished
  conts : l.conts.size = l₁.conts.size
  runs : ∀ c, l.runs c = l₁.runs c

theorem starting_eq_none_of_done {s : PoolState} (hi : s.Inv) (hd : s.done = true) (a : Act) :
    s.starting a = none := by
  cases a with
  | worker w pick =>
    cases pick
    case step =>
      simp only [PoolState.starting]
      split
      · rename_i j d hw
        cases hi.done hd _ (List.mem_of_getElem? hw)
      · rfl
    all_goals rfl
  | _ => rfl

theorem Step.frozen {fs : List Firing} {l₁ : Loop} (h : Step l fs l') (ha : Accounts base l)
    (hz : Frozen l₁ l) : Frozen l₁ l' := by
  have hex : l.turn = .exited := ha.exited (by simp [hz.finished, Closing.joined])
  cases h with
  | quiet hq =>
    have hsize := hq.conts (by simp [closed, hz.finished])
    exact ⟨hq.closing.trans hz.finished, hsize.trans hz.conts,
      fun c => (runs_eq_of_frame hsize hq.runs c).trans (hz.runs c)⟩
  | wake hturn => simp [hex] at hturn
  | submit hturn => simp [hex] at hturn
  | settle hturn => simp [hex] at hturn
  | exit hturn => simp [hex] at hturn
  | work => exact ⟨hz.finished, hz.conts, hz.runs⟩
  | start _ hs => simp [starting_eq_none_of_done ha.pool (ha.done hz.finished)] at hs
  | drop hc => simp [hz.finished] at hc
  | cancelAll hc => simp [hz.finished] at hc
  | join hc => simp [hz.finished] at hc
  | leave hc => simp [hz.finished] at hc
  | stop hc => simp [hz.finished] at hc

/-- Once Close has returned, no handler runs, nothing is pending, scheduling and making
continuations fail as closed, canceling does nothing and Close does nothing. -/
theorem Accounts.afterwards (ha : Accounts base l) (hf : l.closing = .finished)
    (hr : l.Reaches l') :
    (∀ c, l'.runs c = l.runs c) ∧ l'.pending = 0 ∧
    (∀ c kind d, ∃ f, l'.schedule (some c) kind d = .error f ∧ f.finds .closed = true) ∧
    (∀ k, ∃ f, l'.newContinuation (some k) = .error f ∧ f.finds .closed = true) ∧
    (∀ a, l'.cancel a = (.ok (), l')) ∧ l'.next .close = some l' := by
  obtain ⟨ha', hz⟩ : Accounts base l' ∧ Frozen l l' :=
    Reaches.invariant (P := fun x => Accounts base x ∧ Frozen l x) hr ⟨ha, hf, rfl, fun _ => rfl⟩
      fun _ _ _ ⟨ha, hz⟩ h => ⟨h.accounts ha, h.frozen ha hz⟩
  have hc : l'.closed = true := by simp [closed, hz.finished]
  refine ⟨hz.runs, ?_, fun c kind d => ?_, fun k => ?_, fun a => ?_, ?_⟩
  · simp [pending, Queue.size, ha'.emptied hc]
  · by_cases hd : l'.isDestroyed c = true
    · simp [schedule, hd, Fault.finds]
    · simp [schedule, hd, hc, Fault.finds]
  · simp [newContinuation, hc, Fault.finds]
  · simp [cancel, hc]
  · simp [next, closeStep, hz.finished]

/-! ## Handlers -/

theorem handlers_of_frame (hc : l'.conts = l.conts) (he : l'.pool.executed = l.pool.executed) :
    ∃ started : Option Nat, l'.pool.executed = l.pool.executed ++ started.toList ∧
      ∀ c, 0 < c → c ≤ l.conts.size → l'.runs c = l.runs c +
        (started.any fun j => (l.deliveries[j]?.map (·.cont)) == some c && !l.isDestroyed c).toNat :=
  ⟨none, by simp [he], fun c _ _ => by simp [runs, hc]⟩

/-- A step runs the handler of a continuation exactly when the pool starts the delivery of a
firing of it, and it was not destroyed by then. -/
theorem Step.handlers {fs : List Firing} (h : Step l fs l') :
    ∃ started : Option Nat, l'.pool.executed = l.pool.executed ++ started.toList ∧
      ∀ c, 0 < c → c ≤ l.conts.size → l'.runs c = l.runs c +
        (started.any fun j => (l.deliveries[j]?.map (·.cont)) == some c && !l.isDestroyed c).toNat := by
  cases h with
  | quiet hq => exact ⟨none, by simp [hq.pool], fun c hc hle => by simp [hq.runs c hc hle]⟩
  | wake => exact handlers_of_frame rfl rfl
  | submit => exact handlers_of_frame rfl (submit_executed _ _)
  | settle => exact handlers_of_frame (by simp) (by simp)
  | exit => exact handlers_of_frame rfl rfl
  | work hp _ hs => exact handlers_of_frame rfl (by simp [(PoolState.next_frame hp).1, hs])
  | start hp hs =>
    rename_i a p j
    refine ⟨some j, ?_, fun c hc hle => ?_⟩
    · rw [(startTask_handled _).pool, (PoolState.next_frame hp).1, hs]
    · rw [runs_startTask (l := { l with pool := p }) j hc hle]
      simp [runs, isDestroyed]
  | drop => split <;> exact handlers_of_frame rfl rfl
  | cancelAll =>
    exact handlers_of_frame rfl
      (PoolState.steps_executed (by simp [PoolState.starting]) (by simp [PoolState.starting]))
  | join => exact handlers_of_frame rfl rfl
  | leave => exact handlers_of_frame (by simp) (by simp)
  | stop => exact handlers_of_frame (by simp) (by simp)

/-! ## What Close promises -/

/-- What Close promises a loop that owns its pool, whatever its callers and goroutines do. -/
structure ClosesWithoutLoss (l₀ : Loop) : Prop where
  /-- When Close has returned, the loop's goroutine has returned, the firings it took from the
  queue were submitted to the pool in order, each ran once or was refused, and the refused ones
  were each counted once as dropped. -/
  accounted : ∀ (fs : List Firing) (l : Loop), l₀.Run fs l → l.closing = .finished →
    l.turn = .exited ∧ l.deliveries = fs ∧
    (∀ j < fs.length, (l.pool.result j = some (.ok ()) ∧ l.pool.executed.count j = 1) ∨
      (∃ e, l.pool.result j = some (.error e) ∧ l.pool.executed.count j = 0)) ∧
    l.metric .deliveriesDropped [l₀.config.name] =
      l₀.metric .deliveriesDropped [l₀.config.name] + (List.range fs.length).countP l.pool.refused
  /-- A handler runs exactly when the pool starts the delivery of a firing of its continuation,
  and the continuation was not destroyed by then. -/
  handlers : ∀ (l l' : Loop) (act : LoopAct), l.next act = some l' → ∃ started : Option Nat,
    l'.pool.executed = l.pool.executed ++ started.toList ∧
    ∀ c, 0 < c → c ≤ l.conts.size → l'.runs c = l.runs c +
      (started.any fun j => (l.deliveries[j]?.map (·.cont)) == some c && !l.isDestroyed c).toNat
  /-- From then on no handler runs, nothing is pending, scheduling and making continuations fail
  as closed, canceling does nothing, and Close does nothing. -/
  afterwards : ∀ l : Loop, l₀.Reaches l → l.closing = .finished → ∀ l' : Loop, l.Reaches l' →
    (∀ c, l'.runs c = l.runs c) ∧ l'.pending = 0 ∧
    (∀ c kind d, ∃ f, l'.schedule (some c) kind d = .error f ∧ f.finds .closed = true) ∧
    (∀ k, ∃ f, l'.newContinuation (some k) = .error f ∧ f.finds .closed = true) ∧
    (∀ a, l'.cancel a = (.ok (), l')) ∧ l'.next .close = some l'

theorem owned_loop_closes_without_loss {cfg : LoopConfig} {reg : Metrics.Registry}
    {logger : Log.Logger} {l₀ : Loop} (hown : cfg.delivery = .own)
    (hmake : Loop.make cfg (some reg) logger = .ok l₀) : ClosesWithoutLoss l₀ where
  accounted fs l hrun hf := by
    have ha := (accounts_make hown hmake).reaches hrun.reaches
    obtain ⟨hex, hruns, hdrop⟩ := ha.closed_out hf
    obtain ⟨-, -, -, hturn₀, hdel₀, -, -, -⟩ := make_eq hmake
    -- every firing taken was passed on, since the goroutine holds none once it has returned
    have hdel : l.deliveries = fs := by simpa [hex, hturn₀, hdel₀] using hrun.held
    have hlen : fs.length = l.pool.calls.length := by rw [← hdel, ha.deliveries]
    refine ⟨hex, hdel, fun j hj => hruns j (hlen ▸ hj), ?_⟩
    rw [hlen, ← hdrop, hrun.reaches.config_eq]
  handlers l l' act h := (step_of_next h).handlers
  afterwards l hr hf l' hr' := ((accounts_make hown hmake).reaches hr).afterwards hf hr'

theorem ticker_loop_closes_without_loss :
    ∃ l₀, ({ name := "ticker", workers := 2, queueSize := 1 } : LoopConfig).delivery = .own ∧
      Loop.make { name := "ticker", workers := 2, queueSize := 1 }
        (some { space := "goasync", constLabels := [] }) default = .ok l₀ ∧
      ClosesWithoutLoss l₀ :=
  ⟨_, rfl, rfl, @owned_loop_closes_without_loss { name := "ticker", workers := 2, queueSize := 1 }
    { space := "goasync", constLabels := [] } default _ rfl rfl⟩

end Loop

end HostDispatch
