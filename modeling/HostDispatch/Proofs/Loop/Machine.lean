import HostDispatch.Proofs.Pool.ExactlyOnce
import HostDispatch.Proofs.Metrics.Series
import HostDispatch.Scheduler.Loop

/-!
# The steps of a loop

A loop's goroutines take the steps of `Loop.next` in any order. This module reads those steps once
into the relation `Loop.Step`, which also records the firings a step takes from the queue, so that
every later invariant is a case analysis over its constructors.

The callers' steps are quiet: they touch neither the pool, the loop's goroutine nor Close, count no
dropped firing, run no handler, and once the loop is closed they leave its queue and its
continuations as they are. Every other step moves the pool only by steps of the pool's own machine,
and only a worker that starts a task runs a handler.
-/

namespace HostDispatch

open Pool

/-! ## The pool's steps seen from a loop -/

/-- Whether a pool step is a new call of a submit function. -/
def Pool.Act.isSubmit : Act → Bool
  | .submit .. => true
  | _ => false

namespace PoolState

variable {s s' : PoolState} {a : Act} {i j : Nat} {c : Call} {r : Except Fault Unit}

/-- The task a pool step starts: a worker's step that runs the task it holds. -/
def starting (s : PoolState) : Act → Option Nat
  | .worker w .step =>
    match s.workers[w]? with
    | some (.running j _) => some j
    | _ => none
  | _ => none

theorem callStep_frame {pick : CallPick} (h : s.callStep i c pick = some s') :
    s'.calls.length = s.calls.length ∧ s'.executed = s.executed := by
  unfold callStep at h
  split at h
  · split at h <;> (try split at h) <;> first | (cases h; simp) | cases h
  all_goals (split at h <;> first | (cases h; simp) | cases h)

theorem workerStep_frame {q : WorkerPc} {pick : WorkerPick} {w : Nat}
    (hq : s.workers[w]? = some q) (h : s.workerStep w q pick = some s') :
    s'.calls.length = s.calls.length ∧
      s'.executed = s.executed ++ (s.starting (.worker w pick)).toList := by
  cases q <;> cases pick <;> simp only [workerStep, reduceCtorEq] at h
  all_goals first
    | (cases h; simp [starting, hq])
    | (split at h <;> (try split at h) <;> first | (cases h; simp [starting]) | cases h)

/-- A step starts at most one task, which the pool records as started, and only a new call adds
to the calls. -/
theorem next_frame (h : s.next a = some s') :
    s'.executed = s.executed ++ (s.starting a).toList ∧
      (a.isSubmit = false → s'.calls.length = s.calls.length) := by
  cases a with
  | submit => cases h; simp [starting, Act.isSubmit]
  | cancel i =>
    simp only [next] at h
    split at h <;> (try split at h) <;> first | (cases h; simp [starting]) | cases h
  | call i pick =>
    simp only [next] at h
    split at h
    · obtain ⟨hlen, hex⟩ := callStep_frame h
      exact ⟨by simpa [starting] using hex, fun _ => hlen⟩
    · cases h
  | worker w pick =>
    simp only [next] at h
    split at h
    · obtain ⟨hlen, hex⟩ := workerStep_frame ‹_› h
      exact ⟨hex, fun _ => hlen⟩
    · cases h
  | shutdown =>
    simp only [next, shutdownStep] at h
    split at h <;> (try split at h) <;> first | (cases h; simp [starting]) | cases h

theorem steps_executed {acts : List Act} (h : ∀ a ∈ acts, s.starting a = none)
    (hs : ∀ a ∈ acts, ∀ s : PoolState, s.starting a = none) :
    (s.steps acts).executed = s.executed := by
  induction acts generalizing s with
  | nil => rfl
  | cons a acts ih =>
    simp only [steps, List.foldl_cons] at ih ⊢
    have hrest : ∀ a ∈ acts, ∀ s : PoolState, s.starting a = none :=
      fun b hb => hs b (List.mem_cons_of_mem a hb)
    cases hn : s.next a with
    | none => exact ih (fun b hb => hrest b hb s) hrest
    | some s₁ =>
      rw [Option.getD_some, ih (fun b hb => hrest b hb s₁) hrest, (next_frame hn).1,
        h a List.mem_cons_self]
      simp

theorem steps_calls_length {acts : List Act} (h : ∀ a ∈ acts, a.isSubmit = false) :
    (s.steps acts).calls.length = s.calls.length := by
  induction acts generalizing s with
  | nil => rfl
  | cons a acts ih =>
    simp only [steps, List.foldl_cons] at ih ⊢
    have hrest := fun b hb => h b (List.mem_cons_of_mem a hb)
    cases hn : s.next a with
    | none => exact ih hrest
    | some s₁ => rw [Option.getD_some, ih hrest, (next_frame hn).2 (h a List.mem_cons_self)]

/-- A pool that is done stays done. -/
theorem Step.done_of_done (h : Step s s') (hd : s.done = true) : s'.done = true := by
  cases h
  case shutdown hm =>
    simp only [PoolState.done, beq_iff_eq] at hd
    cases hm <;> simp_all
  all_goals exact hd

end PoolState

/-- The firings the loop's goroutine holds: the rest of the batch it delivers. -/
def Turn.held : Turn → List Firing
  | .delivering f rest => f :: rest
  | .submitting _ rest => rest
  | _ => []

namespace Loop

variable {l l' : Loop}

/-- The value of a series in the loop's registry; zero without one. -/
def metric (l : Loop) (f : Metrics.Family) (values : List String) : Int :=
  (l.metrics.map (·.value f values)).getD 0

/-! ## What the writing functions leave alone -/

section Frames

variable (l : Loop) (s : Severity) (m : String) (fs : List Log.Field)
  (f : Metrics.Registry → Metrics.Registry)

@[simp] theorem count_pool : (l.count f).pool = l.pool := rfl
@[simp] theorem count_turn : (l.count f).turn = l.turn := rfl
@[simp] theorem count_closing : (l.count f).closing = l.closing := rfl
@[simp] theorem count_deliveries : (l.count f).deliveries = l.deliveries := rfl
@[simp] theorem count_queue : (l.count f).queue = l.queue := rfl
@[simp] theorem count_config : (l.count f).config = l.config := rfl
@[simp] theorem count_conts : (l.count f).conts = l.conts := rfl
@[simp] theorem count_metrics : (l.count f).metrics = l.metrics.map f := rfl
@[simp] theorem report_pool : (l.report s m fs).pool = l.pool := rfl
@[simp] theorem report_turn : (l.report s m fs).turn = l.turn := rfl
@[simp] theorem report_closing : (l.report s m fs).closing = l.closing := rfl
@[simp] theorem report_deliveries : (l.report s m fs).deliveries = l.deliveries := rfl
@[simp] theorem report_queue : (l.report s m fs).queue = l.queue := rfl
@[simp] theorem report_config : (l.report s m fs).config = l.config := rfl
@[simp] theorem report_conts : (l.report s m fs).conts = l.conts := rfl
@[simp] theorem report_metrics : (l.report s m fs).metrics = l.metrics := rfl
@[simp] theorem log_pool : (l.log s m fs).pool = l.pool := by unfold log; split <;> rfl
@[simp] theorem log_turn : (l.log s m fs).turn = l.turn := by unfold log; split <;> rfl
@[simp] theorem log_closing : (l.log s m fs).closing = l.closing := by unfold log; split <;> rfl
@[simp] theorem log_deliveries : (l.log s m fs).deliveries = l.deliveries := by
  unfold log; split <;> rfl
@[simp] theorem log_queue : (l.log s m fs).queue = l.queue := by unfold log; split <;> rfl
@[simp] theorem log_config : (l.log s m fs).config = l.config := by unfold log; split <;> rfl
@[simp] theorem log_conts : (l.log s m fs).conts = l.conts := by unfold log; split <;> rfl
@[simp] theorem log_metrics : (l.log s m fs).metrics = l.metrics := by unfold log; split <;> rfl

end Frames

section Goroutine

variable (l : Loop) (f : Firing) (rest : List Firing) (r : Except Fault Unit) (i n : Nat)

@[simp] theorem submit_turn : (l.submit f rest).turn = .submitting l.pool.calls.length rest := rfl
@[simp] theorem submit_deliveries : (l.submit f rest).deliveries = l.deliveries ++ [f] := rfl
@[simp] theorem submit_closing : (l.submit f rest).closing = l.closing := rfl
@[simp] theorem submit_queue : (l.submit f rest).queue = l.queue := rfl
@[simp] theorem submit_config : (l.submit f rest).config = l.config := rfl
@[simp] theorem submit_conts : (l.submit f rest).conts = l.conts := rfl
@[simp] theorem settle_turn : (l.settle r i rest).turn = Turn.after rest := by
  cases r <;> rfl
@[simp] theorem settle_deliveries : (l.settle r i rest).deliveries = l.deliveries := by
  cases r <;> rfl
@[simp] theorem settle_pool : (l.settle r i rest).pool = l.pool := by cases r <;> rfl
@[simp] theorem settle_closing : (l.settle r i rest).closing = l.closing := by cases r <;> rfl
@[simp] theorem settle_queue : (l.settle r i rest).queue = l.queue := by cases r <;> rfl
@[simp] theorem settle_config : (l.settle r i rest).config = l.config := by cases r <;> rfl
@[simp] theorem settle_conts : (l.settle r i rest).conts = l.conts := by cases r <;> rfl
@[simp] theorem stop_turn : (l.stop n).turn = l.turn := by simp [stop]
@[simp] theorem stop_deliveries : (l.stop n).deliveries = l.deliveries := by simp [stop]
@[simp] theorem stop_pool : (l.stop n).pool = l.pool := by simp [stop]
@[simp] theorem stop_closing : (l.stop n).closing = .finished := by simp [stop]
@[simp] theorem stop_queue : (l.stop n).queue = l.queue := by simp [stop]
@[simp] theorem stop_config : (l.stop n).config = l.config := by simp [stop]
@[simp] theorem stop_conts : (l.stop n).conts = l.conts := by simp [stop]
@[simp] theorem stop_metrics : (l.stop n).metrics = l.metrics := by simp [stop]

end Goroutine

/-- Counting into a series of another family leaves the value of a series. -/
theorem metric_count_other {g : Metrics.Registry → Metrics.Registry} {fam : Metrics.Family}
    {vs : List String} (hg : ∀ r, (g r).value fam vs = r.value fam vs) :
    (l.count g).metric fam vs = l.metric fam vs := by
  simp only [metric, count_metrics]
  cases l.metrics with
  | none => rfl
  | some r => simp [hg]

/-- Counting one into a series adds one to its value, when the loop keeps a registry. -/
theorem metric_count_inc (hm : l.metrics.isSome = true) (fam : Metrics.Family) (vs : List String) :
    (l.count fun m => m.inc fam vs).metric fam vs = l.metric fam vs + 1 := by
  simp only [metric, count_metrics]
  cases h : l.metrics with
  | none => simp [h] at hm
  | some r => simp [Metrics.Registry.value_inc]

/-! ## Continuations -/

/-- A continuation past the last has no runs. -/
theorem runs_eq_zero {c : Nat} (hc : l.conts.size < c) : l.runs c = 0 := by
  unfold runs
  rw [Array.getD_eq_getD_getElem?, Array.getElem?_eq_none (by omega)]
  rfl

/-- The runs of every continuation agree once those of the existing ones do. -/
theorem runs_eq_of_frame (hsize : l'.conts.size = l.conts.size)
    (h : ∀ c, 0 < c → c ≤ l.conts.size → l'.runs c = l.runs c) (c : Nat) : l'.runs c = l.runs c := by
  -- continuation `0` reads the slot of continuation `1`
  have h₀ : ∀ c, 0 < c → l'.runs c = l.runs c := fun c hc => by
    by_cases hle : c ≤ l.conts.size
    · exact h c hc hle
    · rw [runs_eq_zero (by omega), runs_eq_zero (by omega)]
  cases c with
  | zero => exact h₀ 1 Nat.one_pos
  | succ c => exact h₀ (c + 1) (Nat.succ_pos c)

/-- Running a handler adds one run to its continuation when it exists and was not destroyed, and
none to any other. -/
theorem runs_runHandler {c c' : Nat} (hc : 0 < c) (hle : c ≤ l.conts.size) :
    (l.runHandler c').runs c = l.runs c + (c' == c && !l.isDestroyed c).toNat := by
  unfold runHandler
  dsimp only
  split
  · rename_i hskip
    by_cases he : c' = c
    · subst he
      have : l.isDestroyed c' = true := by
        simp only [Bool.or_eq_true, decide_eq_true_eq] at hskip
        rcases hskip with (hd | h0) | hgt
        · exact hd
        · omega
        · omega
      simp [this]
    · simp [he]
  · rename_i hrun
    simp only [Bool.or_eq_true, decide_eq_true_eq, not_or, Bool.not_eq_true] at hrun
    obtain ⟨⟨hd, hc'⟩, -⟩ := hrun
    split <;> simp only [runs, report_conts, Array.set!_eq_setIfInBounds,
      Array.getD_eq_getD_getElem?, Array.getElem?_setIfInBounds]
    all_goals
      by_cases he : c' = c
      · subst he
        have hk : l.conts.getD (c' - 1) default = l.conts[c' - 1] := by
          simp [Array.getD_eq_getD_getElem?, show c' - 1 < l.conts.size by omega]
        rw [hk] at hd
        simp [isDestroyed, hk, hd, show c' - 1 < l.conts.size by omega]
      · have : c' - 1 ≠ c - 1 := by omega
        simp [this, he]

/-- Starting task `j` runs the handler of firing `j`'s continuation when it was not destroyed. -/
theorem runs_startTask (j : Nat) {c : Nat} (hc : 0 < c) (hle : c ≤ l.conts.size) :
    (l.startTask j).runs c =
      l.runs c + ((l.deliveries[j]?.map (·.cont)) == some c && !l.isDestroyed c).toNat := by
  unfold startTask
  split
  · rename_i f hf
    rw [runs_runHandler hc hle, hf]
    simp
  · rename_i hf
    simp [hf]

/-- Running a handler touches only the continuations and the reports. -/
structure Handled (l l' : Loop) : Prop where
  pool : l'.pool = l.pool
  turn : l'.turn = l.turn
  closing : l'.closing = l.closing
  deliveries : l'.deliveries = l.deliveries
  queue : l'.queue = l.queue
  config : l'.config = l.config
  metrics : l'.metrics = l.metrics

theorem runHandler_handled (c : Nat) : Handled l (l.runHandler c) := by
  unfold runHandler
  dsimp only
  split
  · exact ⟨rfl, rfl, rfl, rfl, rfl, rfl, rfl⟩
  · split <;> exact ⟨rfl, rfl, rfl, rfl, rfl, rfl, rfl⟩

theorem startTask_handled (j : Nat) : Handled l (l.startTask j) := by
  unfold startTask
  split
  · exact runHandler_handled _
  · exact ⟨rfl, rfl, rfl, rfl, rfl, rfl, rfl⟩

/-! ## The callers' steps -/

/-- A step that touches neither the pool, the loop's goroutine, Close nor the submitted firings,
counts no dropped firing, runs no handler of a continuation that exists, and once the loop is
closed makes no continuation and leaves the queue. -/
structure Quiet (l l' : Loop) : Prop where
  pool : l'.pool = l.pool
  turn : l'.turn = l.turn
  closing : l'.closing = l.closing
  deliveries : l'.deliveries = l.deliveries
  config : l'.config = l.config
  registry : l'.metrics.isSome = l.metrics.isSome
  dropped : l'.metric .deliveriesDropped [l.config.name] = l.metric .deliveriesDropped [l.config.name]
  runs : ∀ c, 0 < c → c ≤ l.conts.size → l'.runs c = l.runs c
  conts : l.closed = true → l'.conts.size = l.conts.size
  queue : l.closed = true → l'.queue = l.queue

theorem Quiet.refl (l : Loop) : Quiet l l :=
  ⟨rfl, rfl, rfl, rfl, rfl, rfl, rfl, fun _ _ _ => rfl, fun _ => rfl, fun _ => rfl⟩

/-- A caller's step that counts into other families than that of dropped firings and changes
the queue only while the loop is open is quiet. -/
theorem Quiet.of_count {g : Metrics.Registry → Metrics.Registry} {q : Queue}
    (hg : ∀ r, (g r).value .deliveriesDropped [l.config.name] =
      r.value .deliveriesDropped [l.config.name])
    (hq : l.closed = true → q = l.queue) : Quiet l ({ l with queue := q }.count g) := by
  exact ⟨rfl, rfl, rfl, rfl, rfl, by simp, metric_count_other hg, fun _ _ _ => rfl,
    fun _ => rfl, hq⟩

theorem quiet_newContinuation (h : Option Counter) :
    Quiet l (match l.newContinuation h with
      | .ok (_, l') => l'
      | .error _ => l) := by
  cases h with
  | none => exact Quiet.refl l
  | some k =>
    by_cases hc : l.closed = true
    · simpa [newContinuation, hc] using Quiet.refl l
    · have hc' : l.closed = false := by simpa using hc
      simp only [newContinuation, hc', Bool.false_eq_true, ↓reduceIte]
      refine ⟨rfl, rfl, rfl, rfl, rfl, rfl, rfl, fun c hc₀ hle => ?_, fun h => absurd h hc,
        fun h => absurd h hc⟩
      simp only [runs, Array.getD_eq_getD_getElem?]
      rw [Array.getElem?_push, if_neg (by omega)]

theorem quiet_schedule (c : Option Nat) (kind : Kind) (d : Int) :
    Quiet l (match l.schedule c kind d with
      | .ok (_, l') => l'
      | .error _ => l) := by
  cases c with
  | none => exact Quiet.refl l
  | some c =>
    by_cases hd : l.isDestroyed c = true
    · simpa [schedule, hd] using Quiet.refl l
    · by_cases hcl : l.closed = true
      · simpa [schedule, hd, hcl] using Quiet.refl l
      · have hd' : l.isDestroyed c = false := by simpa using hd
        have hcl' : l.closed = false := by simpa using hcl
        simp only [schedule, hd', hcl', Bool.false_eq_true, ↓reduceIte]
        exact Quiet.of_count (fun r => by simp [Metrics.Registry.value_add,
          Metrics.Registry.value_inc]) (fun h => absurd h hcl)

theorem quiet_cancel (a : Option Nat) : Quiet l (l.cancel a).2 := by
  unfold cancel
  split
  · exact Quiet.refl l
  · rename_i hclosed
    split
    · exact Quiet.of_count (fun r => by simp [Metrics.Registry.value_add,
        Metrics.Registry.value_inc]) (fun h => absurd h hclosed)
    · -- a refused cancel is counted as misuse and reported
      have hq := Quiet.of_count (l := l) (q := l.queue)
        (g := fun m => m.inc .cancelMisuse [l.config.name])
        (fun r => by simp [Metrics.Registry.value_inc]) (fun _ => rfl)
      exact ⟨hq.pool, hq.turn, hq.closing, hq.deliveries, hq.config, hq.registry, hq.dropped,
        hq.runs, hq.conts, hq.queue⟩

theorem quiet_destroy (c : Option Nat) : Quiet l (l.destroy c) := by
  unfold destroy
  split
  · split
    · exact Quiet.refl l
    · refine ⟨rfl, rfl, rfl, rfl, rfl, rfl, rfl, fun c' _ _ => ?_, fun _ => by simp, fun _ => rfl⟩
      simp only [runs, Array.getD_eq_getD_getElem?, Array.getElem?_modify]
      split
      · cases l.conts[c' - 1]? <;> rfl
      · rfl
  · exact Quiet.refl l

theorem quiet_tick (t : Time) : Quiet l (if t.after l.now then { l with now := t } else l) := by
  split
  · exact ⟨rfl, rfl, rfl, rfl, rfl, rfl, rfl, fun _ _ _ => rfl, fun _ => rfl, fun _ => rfl⟩
  · exact Quiet.refl l

/-! ## The steps, read off the step function -/

/-- The firings a step takes from the queue: the batch the loop's goroutine wakes to. -/
def took (l : Loop) : LoopAct → List Firing
  | .wake =>
    match l.turn with
    | .idle => (takeDue l.now (l.queue.size + 1) l.queue).1
    | _ => []
  | _ => []

/-- One step of one goroutine of a loop, with the firings it takes from the queue. -/
inductive Step : Loop → List Firing → Loop → Prop
  | quiet {l l' : Loop} : Quiet l l' → Step l [] l'
  | wake {l : Loop} {batch q} : l.turn = .idle → takeDue l.now (l.queue.size + 1) l.queue = (batch, q) →
      Step l batch { l with queue := q, turn := Turn.after batch }
  | submit {l : Loop} {f rest} : l.turn = .delivering f rest → Step l [] (l.submit f rest)
  | settle {l : Loop} {i rest r} : l.turn = .submitting i rest → l.pool.result i = some r →
      Step l [] (l.settle r i rest)
  | exit {l : Loop} : l.turn = .idle → l.canceledCtx = true → Step l [] { l with turn := .exited }
  | work {l : Loop} {a p} : l.pool.next a = some p → a.isSubmit = false → l.pool.starting a = none →
      Step l [] { l with pool := p }
  | start {l : Loop} {a p j} : l.pool.next a = some p → l.pool.starting a = some j →
      Step l [] ({ l with pool := p }.startTask j)
  | drop {l : Loop} : l.closing = .open →
      Step l [] (if l.queue.size = 0 then
          { l with queue := { l.queue with entries := [] }, closing := .canceling l.queue.size }
        else { l with queue := { l.queue with entries := [] }, closing := .canceling l.queue.size }.count
          fun m => m.add .actionsPending [l.config.name] (-(l.queue.size : Int)))
  | cancelAll {l : Loop} {n} : l.closing = .canceling n →
      Step l [] { l with pool := l.pool.steps ((List.range l.pool.calls.length).map .cancel),
                         closing := .joining n }
  | join {l : Loop} {n} : l.closing = .joining n → l.turn = .exited → l.config.delivery = .own →
      Step l [] { l with closing := .draining n }
  | leave {l : Loop} {n} : l.closing = .joining n → l.turn = .exited → l.config.delivery ≠ .own →
      Step l [] (l.stop n)
  | stop {l : Loop} {n} : l.closing = .draining n → l.pool.done = true → Step l [] (l.stop n)

/-- A worker's step starts the task it holds exactly as the loop's `work` reads it. -/
theorem work_worker {w : Nat} {pick : WorkerPick} {p : PoolState}
    (hp : l.pool.next (.worker w pick) = some p) :
    l.work (.worker w pick) = some (match l.pool.starting (.worker w pick) with
      | some j => { l with pool := p }.startTask j
      | none => { l with pool := p }) := by
  simp only [work, hp, Option.map_some]
  congr 1
  cases pick <;> simp only [PoolState.starting] <;> cases l.pool.workers[w]? with
  | none => rfl
  | some q => cases q <;> rfl

theorem closeStep_step (h : l.closeStep = some l') : Step l [] l' := by
  unfold closeStep at h
  split at h
  · rename_i hc
    cases h
    exact .drop hc
  · cases h
    exact .cancelAll ‹_›
  · split at h
    · split at h
      · cases h; exact .join ‹_› ‹_› ‹_›
      · cases h; exact .leave ‹_› ‹_› ‹_›
    · cases h
  · split at h
    · cases h; exact .stop ‹_› ‹_›
    · cases h
  · cases h
    exact .quiet (Quiet.refl l)

/-! The goroutine's steps, each read once off the step function. -/

theorem next_wake (h : l.next .wake = some l') :
    l.turn = .idle ∧ ∃ batch q, takeDue l.now (l.queue.size + 1) l.queue = (batch, q) ∧
      l' = { l with queue := q, turn := Turn.after batch } := by
  simp only [next] at h
  split at h
  · rename_i hturn
    cases ht : takeDue l.now (l.queue.size + 1) l.queue with
    | mk batch q =>
      simp only [ht, Option.some.injEq] at h
      exact ⟨hturn, batch, q, rfl, h.symm⟩
  · cases h

theorem next_submit (h : l.next .submit = some l') :
    ∃ f rest, l.turn = .delivering f rest ∧ l' = l.submit f rest := by
  simp only [next] at h
  split at h
  · cases h
    exact ⟨_, _, ‹_›, rfl⟩
  · cases h

theorem next_settle (h : l.next .settle = some l') :
    ∃ i rest r, l.turn = .submitting i rest ∧ l.pool.result i = some r ∧
      l' = l.settle r i rest := by
  simp only [next] at h
  split at h
  · obtain ⟨r, hr, rfl⟩ := Option.map_eq_some_iff.mp h
    exact ⟨_, _, r, ‹_›, hr, rfl⟩
  · cases h

theorem next_exit (h : l.next .exit = some l') :
    l.turn = .idle ∧ l.canceledCtx = true ∧ l' = { l with turn := .exited } := by
  simp only [next] at h
  split at h
  · split at h
    · cases h
      exact ⟨‹_›, ‹_›, rfl⟩
    · cases h
  · cases h

/-- Every step the step function takes is a `Step`, taking the firings `took` names. -/
theorem step_of_next {act : LoopAct} (h : l.next act = some l') : Step l (l.took act) l' := by
  cases act with
  | newContinuation k => cases h; exact .quiet (quiet_newContinuation k)
  | schedule c kind d => cases h; exact .quiet (quiet_schedule c kind d)
  | cancel a => cases h; exact .quiet (quiet_cancel a)
  | destroy c => cases h; exact .quiet (quiet_destroy c)
  | tick t => cases h; exact .quiet (quiet_tick t)
  | wake =>
    obtain ⟨hturn, batch, q, ht, rfl⟩ := next_wake h
    simp only [took, hturn, ht]
    exact .wake hturn ht
  | submit =>
    obtain ⟨f, rest, hturn, rfl⟩ := next_submit h
    exact .submit hturn
  | settle =>
    obtain ⟨i, rest, r, hturn, hr, rfl⟩ := next_settle h
    exact .settle hturn hr
  | exit =>
    obtain ⟨hturn, hc, rfl⟩ := next_exit h
    exact .exit hturn hc
  | work a =>
    simp only [next] at h
    cases a with
    | call i pick =>
      simp only [work] at h
      obtain ⟨p, hp, rfl⟩ := Option.map_eq_some_iff.mp h
      exact .work hp rfl rfl
    | worker w pick =>
      obtain ⟨p, hp, -⟩ := Option.map_eq_some_iff.mp h
      rw [work_worker hp, Option.some.injEq] at h
      subst h
      split
      · exact .start hp ‹_›
      · exact .work hp rfl ‹_›
    | shutdown =>
      simp only [work] at h
      split at h
      · obtain ⟨p, hp, rfl⟩ := Option.map_eq_some_iff.mp h
        exact .work hp rfl rfl
      · cases h
    | submit => cases h
    | cancel => cases h
  | close => exact closeStep_step h

/-! ## Runs -/

/-- The loops a loop can become, its goroutines taking their steps in any order. -/
def Reaches (l l' : Loop) : Prop :=
  Relation.ReflTransGen (fun a b => ∃ act, a.next act = some b) l l'

/-- A run of a loop, with the firings its goroutine took from the queue along it, in order. -/
inductive Run : Loop → List Firing → Loop → Prop
  | refl (l : Loop) : Run l [] l
  | tail {l l' l'' : Loop} {fs : List Firing} {act : LoopAct} :
      Run l fs l' → l'.next act = some l'' → Run l (fs ++ l'.took act) l''

/-- What holds of a loop and is kept by every step holds of every loop it can become. -/
theorem Reaches.invariant {P : Loop → Prop} (hr : l.Reaches l') (h₀ : P l)
    (hstep : ∀ a fs b, P a → Step a fs b → P b) : P l' := by
  induction hr with
  | refl => exact h₀
  | tail _ hab ih =>
    obtain ⟨act, hact⟩ := hab
    exact hstep _ _ _ ih (step_of_next hact)

theorem Run.reaches {fs : List Firing} (h : l.Run fs l') : l.Reaches l' := by
  induction h with
  | refl => exact Relation.ReflTransGen.refl
  | tail _ hn ih => exact ih.tail ⟨_, hn⟩

@[simp] theorem held_after (rest : List Firing) : (Turn.after rest).held = rest := by
  cases rest <;> rfl

@[simp] theorem held_idle : Turn.idle.held = [] := rfl
@[simp] theorem held_exited : Turn.exited.held = [] := rfl
@[simp] theorem held_delivering (f : Firing) (rest : List Firing) :
    (Turn.delivering f rest).held = f :: rest := rfl
@[simp] theorem held_submitting (i : Nat) (rest : List Firing) :
    (Turn.submitting i rest).held = rest := rfl

/-- A step passes every firing it takes, and every firing the goroutine holds, on to the pool or
keeps holding it. -/
theorem Step.held {fs : List Firing} (h : Step l fs l') :
    l'.deliveries ++ l'.turn.held = l.deliveries ++ l.turn.held ++ fs := by
  cases h with
  | quiet hq => simp [hq.deliveries, hq.turn]
  | wake hturn _ => simp [hturn]
  | submit hturn => simp [hturn]
  | settle hturn _ => simp [hturn]
  | exit hturn => simp [hturn]
  | work => simp
  | start => simp [(startTask_handled _).deliveries, (startTask_handled _).turn]
  | drop => split <;> simp
  | cancelAll => simp
  | join => simp
  | leave => simp
  | stop => simp

/-- Along a run, the firings taken from the queue were submitted to the pool, in order, or are
still held by the loop's goroutine. -/
theorem Run.held {fs : List Firing} (h : l.Run fs l') :
    l'.deliveries ++ l'.turn.held = l.deliveries ++ l.turn.held ++ fs := by
  induction h with
  | refl => simp
  | tail _ hn ih => rw [(step_of_next hn).held, ih, List.append_assoc]

end Loop

end HostDispatch
