import HostDispatch.Proofs.Pool.Invariant

/-!
# A pool runs each accepted task once

From the invariant of `PoolState.Inv`: at every moment a task was started at most once, and never
when its submit failed; once the pool is done, each task whose submit returned without a fault was
started once and reported once, the pool's totals both count the accepted tasks, and each report is
how its task finished. A submit that begins after the flag is set is refused as closed, whatever
else runs; and the step at which a try is refused for want of room changes nothing but the call's
own place.
-/

namespace HostDispatch

open Pool

namespace PoolState

variable {s s' : PoolState} {i j : Nat} {c c' : Call}

/-! ## Counting started tasks -/

/-- The number of indices `j < L.length` at which the lookup satisfies `p` is the count of `p`. -/
theorem countP_range_getElem? {α : Type} (L : List α) (p : α → Bool) :
    (List.range L.length).countP (fun j => (L[j]?).any p) = L.countP p := by
  induction L with
  | nil => rfl
  | cons a L ih =>
    rw [List.length_cons, List.range_succ_eq_map, List.countP_cons, List.countP_map, List.countP_cons]
    simp only [Function.comp_def, List.getElem?_cons_succ, List.getElem?_cons_zero, Option.any_some]
    rw [ih]

/-- A list of numbers in which `j` occurs once when the lookup of `j` satisfies `p`, and not
otherwise, is as long as the count of `p`. -/
theorem length_eq_countP_of_count {α : Type} {l : List Nat} {L : List α} {p : α → Bool}
    (h : ∀ j, l.count j = ((L[j]?).any p).toNat) : l.length = L.countP p := by
  let f := fun j : Nat => (L[j]?).any p
  have hperm : l.Perm ((List.range L.length).filter f) := by
    rw [List.perm_iff_count]
    intro j
    rw [h j]
    by_cases hf : f j = true
    · have hj : j < L.length := by
        rcases Nat.lt_or_ge j L.length with hj | hj
        · exact hj
        · simp [f, List.getElem?_eq_none hj] at hf
      rw [List.count_filter hf, List.count_range, if_pos hj]
      simpa [f] using hf
    · rw [List.count_eq_zero.mpr (by simp [hf])]
      simpa [f] using hf
  rw [hperm.length_eq, ← List.countP_eq_length_filter]
  exact countP_range_getElem? L p

/-! ## At every moment -/

/-- A task is started at most once. -/
theorem Inv.executed_count_le_one (hi : s.Inv) (j : Nat) : s.executed.count j ≤ 1 := by
  have hpl := hi.places j
  have := Bool.toNat_le (s.sent j)
  omega

/-- The task of a call that returned a fault is never started. -/
theorem Inv.executed_count_of_error (hi : s.Inv) {e : Fault} (he : s.result j = some (.error e)) :
    s.executed.count j = 0 := by
  have hs : s.sent j = false := by
    unfold result at he
    unfold sent
    cases hc : s.calls[j]? with
    | none => rfl
    | some c =>
      rw [hc] at he
      simp only at he
      split at he <;> simp_all [CallPc.sent, Except.toBool]
  have hpl := hi.places j
  rw [hs, Bool.toNat_false] at hpl
  omega

/-! ## Once the pool is done -/

/-- Whether call `j` returned without a fault. -/
def accepted (s : PoolState) (j : Nat) : Bool := (s.calls[j]?).any (·.pc.accepted)

theorem accepted_eq_true_iff : s.accepted j = true ↔ s.result j = some (.ok ()) := by
  unfold accepted result
  cases s.calls[j]? with
  | none => simp
  | some c =>
    simp only [Option.any_some]
    cases hpc : c.pc <;> simp [CallPc.accepted]
    case returned r => cases r <;> simp

theorem isShutdown_of_done (hd : s.done = true) : s.isShutdown = true := by
  simp only [done, beq_iff_eq] at hd
  simp [isShutdown, hd, ShutdownPc.rank]

/-- Past the flag, a call's task was sent exactly when its send was counted and it returned. -/
theorem CallPc.sent_eq_accepted {pc : CallPc} (h : pc.inFlight = false) :
    pc.sent = pc.accepted ∧ pc.counted = pc.accepted := by
  cases pc <;> simp_all [CallPc.inFlight, CallPc.sent, CallPc.counted, CallPc.accepted]
  case returned r => cases r <;> simp [Except.toBool]

section Done

variable (hi : s.Inv) (hd : s.done = true)
include hi hd

theorem Inv.sent_eq_accepted_of_done (j : Nat) : s.sent j = s.accepted j := by
  unfold sent accepted
  cases hc : s.calls[j]? with
  | none => rfl
  | some c =>
    exact (CallPc.sent_eq_accepted (hi.flag (isShutdown_of_done hd) c (List.mem_of_getElem? hc))).1

theorem Inv.taken_eq_zero_of_done (j : Nat) : s.taken j = 0 :=
  List.countP_eq_zero.mpr fun q hq => by simp [hi.done hd q hq, WorkerPc.holds]

theorem Inv.running_eq_zero_of_done (j : Nat) : s.running j = 0 :=
  List.countP_eq_zero.mpr fun q hq => by simp [hi.done hd q hq, WorkerPc.runs]

theorem Inv.active_eq_zero_of_done : s.active = 0 :=
  List.countP_eq_zero.mpr fun q hq => by simp [hi.done hd q hq, WorkerPc.busy]

/-- With a worker, a done pool has emptied its buffer: the last worker to exit found it empty. -/
theorem Inv.buffer_eq_nil_of_done (hw : 0 < s.workers.length) : s.buffer = [] := by
  obtain ⟨q, hq⟩ := List.exists_mem_of_length_pos hw
  have hex := hi.done hd q hq
  subst hex
  exact hi.emptied hq

/-- Once the pool is done, a task was started once if its call returned without a fault, and
never otherwise. -/
theorem Inv.executed_count_of_done (hw : 0 < s.workers.length) (j : Nat) :
    s.executed.count j = (s.accepted j).toNat := by
  have hpl := hi.places j
  rw [hi.buffer_eq_nil_of_done hd hw, hi.taken_eq_zero_of_done hd, hi.sent_eq_accepted_of_done hd]
    at hpl
  simpa using hpl

/-- Once the pool is done, both totals count the accepted tasks. -/
theorem Inv.totals_of_done (hw : 0 < s.workers.length) :
    s.submitted = s.completed ∧ s.completed = s.calls.countP (·.pc.accepted) := by
  have hsub : s.submitted = s.calls.countP (·.pc.accepted) := by
    rw [hi.submitted]
    refine List.countP_congr fun c hc => ?_
    rw [(CallPc.sent_eq_accepted (hi.flag (isShutdown_of_done hd) c hc)).2]
  have hcomp : s.completed = s.calls.countP (·.pc.accepted) := by
    have hlen := length_eq_countP_of_count (hi.executed_count_of_done hd hw)
    have hc := hi.completed
    rw [hi.active_eq_zero_of_done hd] at hc
    omega
  exact ⟨hsub.trans hcomp.symm, hcomp⟩

/-- Once the pool is done, a reporting pool reported each accepted task once and no other. -/
theorem Inv.reports_count_of_done (hw : 0 < s.workers.length) (hcfg : s.config.configured = true)
    (j : Nat) : s.reports.countP (·.task == j) = (s.accepted j).toNat := by
  have hr := hi.reported hcfg j
  rw [hi.running_eq_zero_of_done hd, hi.executed_count_of_done hd hw] at hr
  simpa using hr

end Done

/-- A task that panicked is reported with a fault. -/
theorem finish_panic_fault (cfg : PoolConfig) (j : Nat) (m : String) :
    (finish cfg j (.panic m)).fault = some (firstLine ("task panicked: " ++ m)) := rfl

/-! ## What a step does to one call -/

/-- How step `s → s'` changes call `i`, which was `c`: not at all, by canceling its context, by one
of its own moves (which changes nothing else), or by the send of its task and the count of that
send. -/
inductive CallChange (s s' : PoolState) (i : Nat) (c : Call) : Call → Prop
  | same : CallChange s s' i c c
  | cancel : CallChange s s' i c { c with canceled := true }
  | move {pc} : CallMove s c pc → s' = s.moveCall i c pc → CallChange s s' i c { c with pc := pc }
  | count : c.pc = .counting → CallChange s s' i c { c with pc := .leaving (.ok ()) }
  | send : c.pc = .selecting → CallChange s s' i c { c with pc := .counting }

/-- A lookup in a list with one element replaced finds the new element or the old one. -/
theorem getElem?_set_cases {α : Type} {l : List α} {k : Nat} {a b d : α} (hb : l[k]? = some b)
    (hd : l[i]? = some d) : ∃ d', (l.set k a)[i]? = some d' ∧ (k = i ∧ b = d ∧ d' = a ∨ d' = d) := by
  by_cases hki : k = i
  · subst hki
    rw [hb] at hd
    exact ⟨a, List.getElem?_set_self (List.getElem?_eq_some_iff.mp hb).1,
      .inl ⟨rfl, Option.some.inj hd, rfl⟩⟩
  · exact ⟨d, by rw [List.getElem?_set_ne hki, hd], .inr rfl⟩

theorem Step.call_change (h : Step s s') (hc : s.calls[i]? = some c) :
    ∃ c', s'.calls[i]? = some c' ∧ CallChange s s' i c c' := by
  cases h <;> dsimp only [moveCall, setCall, setWorker]
  case submit =>
    exact ⟨c, by rw [List.getElem?_append_left (List.getElem?_eq_some_iff.mp hc).1, hc], .same⟩
  case cancel k b hb _ _ =>
    obtain ⟨d', hd', ⟨-, rfl, rfl⟩ | rfl⟩ := getElem?_set_cases (a := { b with canceled := true }) hb hc
    · exact ⟨_, hd', .cancel⟩
    · exact ⟨_, hd', .same⟩
  case move k b pc hb hm =>
    obtain ⟨d', hd', ⟨rfl, rfl, rfl⟩ | rfl⟩ := getElem?_set_cases (a := { b with pc := pc }) hb hc
    · exact ⟨_, hd', .move hm rfl⟩
    · exact ⟨_, hd', .same⟩
  case count k b hb hpc =>
    obtain ⟨d', hd', ⟨-, rfl, rfl⟩ | rfl⟩ :=
      getElem?_set_cases (a := { b with pc := .leaving (.ok ()) }) hb hc
    · exact ⟨_, hd', .count hpc⟩
    · exact ⟨_, hd', .same⟩
  case send k b hb hpc _ =>
    obtain ⟨d', hd', ⟨-, rfl, rfl⟩ | rfl⟩ := getElem?_set_cases (a := { b with pc := .counting }) hb hc
    · exact ⟨_, hd', .send hpc⟩
    · exact ⟨_, hd', .same⟩
  case handoff k b w hb hpc _ _ =>
    obtain ⟨d', hd', ⟨-, rfl, rfl⟩ | rfl⟩ := getElem?_set_cases (a := { b with pc := .counting }) hb hc
    · exact ⟨_, hd', .send hpc⟩
    · exact ⟨_, hd', .same⟩
  case take w k b _ _ hb hpc _ =>
    obtain ⟨d', hd', ⟨-, rfl, rfl⟩ | rfl⟩ := getElem?_set_cases (a := { b with pc := .counting }) hb hc
    · exact ⟨_, hd', .send hpc⟩
    · exact ⟨_, hd', .same⟩
  all_goals exact ⟨c, hc, .same⟩

/-- A call that returned keeps its answer. -/
theorem Step.result_eq {r : Except Fault Unit} (h : Step s s') (hr : s.result j = some r) :
    s'.result j = some r := by
  unfold result at hr ⊢
  cases hc : s.calls[j]? with
  | none => simp [hc] at hr
  | some c =>
    rw [hc] at hr
    have hpc : c.pc = .returned r := by
      dsimp only at hr
      split at hr <;> simp_all
    obtain ⟨c', hc', hch⟩ := h.call_change hc
    rw [hc']
    -- a returned call has no move of its own, and neither a count nor a send applies to it
    cases hch with
    | same => simp [hpc]
    | cancel => simp [hpc]
    | move hm _ => cases hm <;> simp_all
    | count h₀ => simp [hpc] at h₀
    | send h₀ => simp [hpc] at h₀

theorem Reaches.result_eq {r : Except Fault Unit} (h : s.Reaches s') (hr : s.result j = some r) :
    s'.result j = some r :=
  h.invariant hr fun _ _ ha hs => hs.result_eq ha

/-! ## A submit after the flag -/

/-- Call `i` has a task and was made after the flag was set: it has not yet read the flag, or it
was refused as closed. -/
def LateCall (i : Nat) (s : PoolState) : Prop :=
  s.isShutdown = true ∧ ∃ c, s.calls[i]? = some c ∧ c.job.isSome = true ∧
    (c.pc = .start ∨ c.pc = .locking ∨ c.pc = .checking ∨
      c.pc = .leaving (.error closedFault) ∨ c.pc = .returned (.error closedFault))

theorem Step.lateCall (h : Step s s') (hl : LateCall i s) : LateCall i s' := by
  obtain ⟨hs, c, hc, hj, hpc⟩ := hl
  have hs' : s'.isShutdown = true := by
    have := h.rank_le
    simp only [isShutdown, decide_eq_true_eq] at hs ⊢
    omega
  obtain ⟨c', hc', hch⟩ := h.call_change hc
  refine ⟨hs', c', hc', ?_⟩
  cases hch with
  | same => exact ⟨hj, hpc⟩
  | cancel => exact ⟨hj, hpc⟩
  | move hm _ =>
    refine ⟨hj, ?_⟩
    cases hm <;> simp_all
  | count hc₀ => simp [hc₀] at hpc
  | send hc₀ => simp [hc₀] at hpc

theorem Reaches.lateCall (h : s.Reaches s') (hl : LateCall i s) : LateCall i s' :=
  h.invariant hl fun _ _ ha hs => hs.lateCall ha

/-- A submit of a task made after the flag is set returns, if it does, the closed fault. -/
theorem late_submit_refused {job : Job} {trying cancelable : Bool} {s₁ : PoolState}
    (hs : s.isShutdown = true) (h₁ : s.next (.submit (some job) trying cancelable) = some s₁)
    (hr : s₁.Reaches s') {r : Except Fault Unit} (hres : s'.result s.calls.length = some r) :
    r = .error closedFault := by
  cases h₁
  have hl : LateCall s.calls.length
      { s with calls := s.calls ++ [{ job := some job, trying := trying, cancelable := cancelable }] } :=
    ⟨hs, { job := some job, trying := trying, cancelable := cancelable }, by simp, rfl, .inl rfl⟩
  obtain ⟨-, c, hc, -, hpc⟩ := hr.lateCall hl
  unfold result at hres
  rw [hc] at hres
  rcases hpc with h | h | h | h | h <;> simp [h] at hres
  exact hres.symm

/-! ## A try refused for want of room -/

theorem closedFault_finds : closedFault.finds .capacityExceeded = false := rfl

theorem canceledFault_finds : canceledFault.finds .capacityExceeded = false := rfl

/-- The step at which a call is refused with a fault that finds `capacityExceeded` is a try that
found no room, and it changes nothing but the call's place. -/
theorem Step.capacity_refusal (h : Step s s') (hc : s.calls[i]? = some c)
    (hc' : s'.calls[i]? = some c') (hpc : ∀ r, c.pc ≠ .leaving r) {f : Fault}
    (hf : c'.pc = .leaving (.error f)) (hfind : f.finds .capacityExceeded = true) :
    c.trying = true ∧ s.sendReady = false ∧ s' = s.moveCall i c c'.pc := by
  obtain ⟨c'', hc'', hch⟩ := h.call_change hc
  rw [hc'] at hc''
  cases hc''
  cases hch with
  | same => exact absurd hf (hpc _)
  | cancel => exact absurd hf (hpc _)
  | count _ => simp at hf
  | send _ => simp at hf
  | move hm hs' =>
    dsimp only at hf
    subst hf hs'
    -- of the moves that refuse a call, only a try that finds no room names the capacity
    cases hm
    case full ht hr _ => exact ⟨ht, hr, rfl⟩
    all_goals simp [closedFault_finds, canceledFault_finds] at hfind

/-! ## The guarantees of a pool -/

/-- What a pool made from `cfg` guarantees, in whatever order its goroutines take their steps:
any number of calls of the submit functions, the cancellation of their contexts, the workers
running tasks that return, fail, panic or wait for their deadline, and the shutdown. -/
structure RunsAcceptedTasksOnce (cfg : PoolConfig) : Prop where
  /-- At every moment a task was started at most once, and never when its submit failed. -/
  atMostOnce : ∀ s, (start cfg).Reaches s → ∀ j,
    s.executed.count j ≤ 1 ∧ ∀ e, s.result j = some (.error e) → s.executed.count j = 0
  /-- Each report is how its call's task finished; a task that panicked is reported with a
  fault. -/
  reports : ∀ s, (start cfg).Reaches s → ∀ r ∈ s.reports, ∃ job,
    (s.calls[r.task]?).bind (·.job) = some job ∧ r = finish cfg r.task job ∧
      ∀ m, job = .panic m → r.fault.isSome = true
  /-- Once the pool is done, each task whose submit returned without a fault was started once and,
  when the pool reports, reported once; no other task was started or reported; and both totals
  count the accepted tasks. -/
  whenDone : ∀ s, (start cfg).Reaches s → s.done = true →
    (∀ j, (s.result j = some (.ok ()) → s.executed.count j = 1 ∧
        (cfg.configured = true → s.reports.countP (·.task == j) = 1)) ∧
      (s.result j ≠ some (.ok ()) → s.executed.count j = 0 ∧
        (cfg.configured = true → s.reports.countP (·.task == j) = 0))) ∧
    s.submitted = s.completed ∧ s.completed = s.calls.countP (·.pc.accepted)
  /-- A submit of a task that begins once the flag is set returns, if it does, a fault that finds
  `closed`. -/
  lateRefused : ∀ (s s₁ s' : PoolState) job trying cancelable, s.isShutdown = true →
    s.next (.submit (some job) trying cancelable) = some s₁ → s₁.Reaches s' →
    ∀ r, s'.result s.calls.length = some r → ∃ f, r = .error f ∧ f.finds .closed = true
  /-- The step at which a call is refused with a fault that finds `capacityExceeded` is a try
  that found no room, and it changes nothing but that call's place: neither the buffer nor the
  totals. -/
  capacityRefusal : ∀ (s s' : PoolState) a i c c' (f : Fault), s.next a = some s' →
    s.calls[i]? = some c → s'.calls[i]? = some c' → (∀ r, c.pc ≠ .leaving r) →
    c'.pc = .leaving (.error f) → f.finds .capacityExceeded = true →
    c.trying = true ∧ s' = s.moveCall i c c'.pc

theorem pool_runs_each_accepted_task_once (cfg : PoolConfig) (hw : 0 < cfg.workers) :
    RunsAcceptedTasksOnce cfg where
  atMostOnce s hr j :=
    ⟨(inv_of_reaches hr).executed_count_le_one j,
      fun _ he => (inv_of_reaches hr).executed_count_of_error he⟩
  reports s hr r hmem := by
    obtain ⟨job, hjob, hrj⟩ := (inv_of_reaches hr).reports r hmem
    rw [hr.config_eq.1] at hrj
    refine ⟨job, hjob, hrj, ?_⟩
    rintro m rfl
    rw [hrj, finish_panic_fault]
    rfl
  whenDone s hr hd := by
    have hi := inv_of_reaches hr
    obtain ⟨hcfg, -, hlen⟩ := hr.config_eq
    -- a pool with workers empties its buffer before it is done
    have hws : 0 < s.workers.length := by
      rw [hlen]
      simp only [start, List.length_replicate]
      omega
    refine ⟨fun j => ⟨fun hok => ?_, fun hok => ?_⟩, hi.totals_of_done hd hws⟩
    · have ha : s.accepted j = true := accepted_eq_true_iff.mpr hok
      refine ⟨by rw [hi.executed_count_of_done hd hws, ha]; rfl, fun hc => ?_⟩
      rw [hi.reports_count_of_done hd hws (hcfg ▸ hc), ha]
      rfl
    · have ha : s.accepted j = false := by
        cases h : s.accepted j
        · rfl
        · exact absurd (accepted_eq_true_iff.mp h) hok
      refine ⟨by rw [hi.executed_count_of_done hd hws, ha]; rfl, fun hc => ?_⟩
      rw [hi.reports_count_of_done hd hws (hcfg ▸ hc), ha]
      rfl
  lateRefused _ _ _ _ _ _ hs h₁ hr _ hres := ⟨_, late_submit_refused hs h₁ hr hres, rfl⟩
  capacityRefusal _ _ _ _ _ _ _ ha hc hc' hpc hf hfind := by
    obtain ⟨ht, -, heq⟩ := (step_of_next ha).capacity_refusal hc hc' hpc hf hfind
    exact ⟨ht, heq⟩

theorem two_worker_pool_runs_each_accepted_task_once :
    0 < ({ workers := 2, queueSize := 1 } : PoolConfig).workers ∧
      RunsAcceptedTasksOnce { workers := 2, queueSize := 1 } :=
  ⟨by decide, pool_runs_each_accepted_task_once _ (by decide)⟩

end PoolState

end HostDispatch
