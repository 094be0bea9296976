import HostDispatch.Proofs.Pool.Steps

/-!
# What every reachable pool keeps

The invariant of a pool's goroutines, `PoolState.Inv`, is kept by every `Step`, so it holds of every
pool a fresh one can become. Its core is a ledger: a task that a call sent is in exactly one place,
the channel's buffer, a worker's hands, or the list of started tasks, and a task no call sent is in
none. The rest says how the shutdown keeps calls and workers in order: the flag is set only while no
call holds the read lock, no call gets past its shutdown check once it is set, and a worker that
took the drain finds the buffer empty when it exits.
-/

namespace HostDispatch

open Pool

namespace PoolState

variable {s s' : PoolState}

/-! ## Where a task is -/

/-- Whether the task of call `j` was sent into the channel. -/
def sent (s : PoolState) (j : Nat) : Bool := (s.calls[j]?).any (·.pc.sent)

/-- The number of workers holding task `j` before starting it. -/
def taken (s : PoolState) (j : Nat) : Nat := s.workers.countP (WorkerPc.holds j)

/-- The number of workers executing task `j`. -/
def running (s : PoolState) (j : Nat) : Nat := s.workers.countP (WorkerPc.runs j)

/-- Replacing one element of a list changes a count by what the element counted for. -/
theorem countP_set_add {α : Type} {p : α → Bool} {l : List α} {i : Nat} {a b : α}
    (h : l[i]? = some b) : (l.set i a).countP p + (p b).toNat = l.countP p + (p a).toNat := by
  obtain ⟨hi, rfl⟩ := List.getElem?_eq_some_iff.mp h
  have hle := List.boole_getElem_le_countP (p := p) hi
  rw [List.countP_set hi]
  cases hb : p l[i] <;> cases ha : p a <;>
    simp only [hb, Bool.toNat_true, Bool.toNat_false, Bool.false_eq_true, reduceIte] at hle ⊢ <;>
    omega

section Ledger

variable {α : Type} {l : List α} {i : Nat} {a b : α}

/-- Replacing one element changes what a lookup finds only at that index. -/
theorem any_getElem?_set {f : α → Bool} (h : l[i]? = some b) (j : Nat) :
    ((l.set i a)[j]?).any f = if i = j then f a else (l[j]?).any f := by
  have hi : i < l.length := (List.getElem?_eq_some_iff.mp h).1
  rw [List.getElem?_set]
  by_cases hij : i = j
  · subst hij
    simp [hi]
  · simp [hij]

/-- Replacing an element by one that looks the same changes no lookup. -/
theorem any_getElem?_set_of_eq {f : α → Bool} (h : l[i]? = some b) (hf : f a = f b) (j : Nat) :
    ((l.set i a)[j]?).any f = (l[j]?).any f := by
  rw [any_getElem?_set h]
  split
  · subst_vars
    simp [h, hf]
  · rfl

/-- Appending an element that a lookup does not see changes no lookup. -/
theorem any_getElem?_append {f : α → Bool} {x : α} (hx : f x = false) (j : Nat) :
    ((l ++ [x])[j]?).any f = (l[j]?).any f := by
  rw [List.getElem?_append]
  split
  · rfl
  · rename_i hj
    have hnone : l[j]? = none := List.getElem?_eq_none (by omega)
    rw [hnone]
    cases hk : j - l.length <;> simp [hx]

end Ledger

/-! ## What a call's own moves change -/

section CallMove

variable {c : Call} {pc : CallPc}

/-- A call's own moves never send its task, nor count a send. -/
theorem CallMove.sent_eq (h : CallMove s c pc) : pc.sent = c.pc.sent ∧ pc.counted = c.pc.counted := by
  cases h <;> simp_all [CallPc.sent, CallPc.counted, Except.toBool]

/-- A call takes the read lock only while the shutdown does not hold the write lock. -/
theorem CallMove.holdsLock (h : CallMove s c pc) (hl : ({ c with pc := pc } : Call).holdsLock = true) :
    c.holdsLock = true ∨ s.writerHeld = false := by
  cases h <;> simp_all [Call.holdsLock]

/-- A call gets past its shutdown check only while the flag is not set. -/
theorem CallMove.inFlight (h : CallMove s c pc) (hf : pc.inFlight = true) :
    c.pc.inFlight = true ∨ s.isShutdown = false := by
  cases h <;> simp_all [CallPc.inFlight, Except.toBool]

/-- A call with a missing task moves only to its refusal. -/
theorem CallMove.refusal_of_missing (h : CallMove s c pc) (hj : c.job = none)
    (hpc : c.pc = .start ∨ c.pc = .returned (.error missingTask)) :
    pc = .start ∨ pc = .returned (.error missingTask) := by
  cases h <;> simp_all

end CallMove

/-! ## The invariant -/

/-- What holds of every pool that a fresh one can become. -/
structure Inv (s : PoolState) : Prop where
  /-- A sent task is in exactly one place: the buffer, a worker's hands, or started. -/
  places : ∀ j, s.buffer.count j + s.taken j + s.executed.count j = (s.sent j).toNat
  /-- When the pool reports, a started task is executing or was reported, not both. -/
  reported : s.config.configured = true →
    ∀ j, s.reports.countP (·.task == j) + s.running j = s.executed.count j
  /-- Each report is how its call's task finished. -/
  reports : ∀ r ∈ s.reports, ∃ job,
    (s.calls[r.task]?).bind (·.job) = some job ∧ r = finish s.config r.task job
  /-- A missing task is refused before anything else. -/
  missing : ∀ c ∈ s.calls, c.job = none → c.pc = .start ∨ c.pc = .returned (.error missingTask)
  submitted : s.submitted = s.calls.countP (·.pc.counted)
  completed : s.completed + s.active = s.executed.length
  /-- The shutdown holds the write lock only while no call holds the read lock. -/
  writer : s.writerHeld = true → s.readers = 0
  /-- Once the flag is set, no call is past its shutdown check. -/
  flag : s.isShutdown = true → ∀ c ∈ s.calls, c.pc.inFlight = false
  /-- A worker takes the drain only once it is closed. -/
  drained : ∀ q ∈ s.workers, q.drained = true → s.drainClosed = true
  /-- A worker exits only when the buffer is empty, and nothing is sent after. -/
  emptied : WorkerPc.exited ∈ s.workers → s.buffer = []
  /-- The pool is done only once every worker has exited. -/
  done : s.done = true → ∀ q ∈ s.workers, q = .exited

/-! ## Each step keeps the invariant -/

section Keeps

variable {i w j : Nat} {c : Call}

theorem Step.config_eq (h : Step s s') : s'.config = s.config := by
  cases h <;> rfl

theorem Step.rank_le (h : Step s s') : s.shutdown.rank ≤ s'.shutdown.rank := by
  cases h
  case shutdown hm => cases hm <;> simp_all [ShutdownPc.rank]
  all_goals exact Nat.le_refl _

theorem finish_task (cfg : PoolConfig) (j : Nat) (job : Job) : (finish cfg j job).task = j := by
  cases job <;> rfl

theorem report_task (s : PoolState) (j : Nat) : (s.report j).task = j := by
  unfold report
  split
  · exact finish_task _ _ _
  · rfl

/-- Replacing a call by one with the same task keeps every call's task. -/
theorem job_of_set {l : List Call} {a b d : Call} (hb : l[i]? = some b) (ha : a.job = b.job)
    (hd : l[j]? = some d) : ∃ d', (l.set i a)[j]? = some d' ∧ d'.job = d.job := by
  by_cases hij : i = j
  · subst hij
    rw [hb] at hd
    cases hd
    exact ⟨a, List.getElem?_set_self (List.getElem?_eq_some_iff.mp hb).1, ha⟩
  · exact ⟨d, by rw [List.getElem?_set_ne hij, hd], rfl⟩

/-- A step never changes the task of a call that was made. -/
theorem Step.job_eq (h : Step s s') (hc : s.calls[j]? = some c) :
    ∃ c', s'.calls[j]? = some c' ∧ c'.job = c.job := by
  cases h <;> dsimp only [moveCall, setCall, setWorker]
  case submit =>
    exact ⟨c, by rw [List.getElem?_append_left (List.getElem?_eq_some_iff.mp hc).1, hc], rfl⟩
  case cancel hb _ _ => exact job_of_set hb rfl hc
  case move hb _ => exact job_of_set hb rfl hc
  case count hb _ => exact job_of_set hb rfl hc
  case send hb _ _ => exact job_of_set hb rfl hc
  case handoff hb _ _ _ => exact job_of_set hb rfl hc
  case take hb _ _ => exact job_of_set hb rfl hc
  all_goals exact ⟨c, hc, rfl⟩

theorem Step.places (h : Step s s')
    (hp : ∀ j, s.buffer.count j + s.taken j + s.executed.count j = (s.sent j).toNat) (j : Nat) :
    s'.buffer.count j + s'.taken j + s'.executed.count j = (s'.sent j).toNat := by
  have hj := hp j
  simp only [sent, taken] at hj ⊢
  cases h <;> dsimp only [moveCall, setCall, setWorker]
  case submit =>
    rw [any_getElem?_append]
    · exact hj
    · rfl
  case cancel hc _ _ =>
    rw [any_getElem?_set_of_eq hc]
    · exact hj
    · rfl
  case move hc hm =>
    rw [any_getElem?_set_of_eq hc]
    · exact hj
    · exact hm.sent_eq.1
  case count hc hpc =>
    rw [any_getElem?_set_of_eq hc]
    · exact hj
    · simp [hpc, CallPc.sent, Except.toBool]
  -- a send puts the task into the buffer or a worker's hands
  case send i c hc hpc _ =>
    have hsi : (s.calls[i]?).any (·.pc.sent) = false := by simp [hc, hpc, CallPc.sent]
    rw [any_getElem?_set hc]
    grind [CallPc.sent]
  case handoff i c w hc hpc _ hw =>
    have ht := countP_set_add (p := WorkerPc.holds j) (a := .running i false) hw
    have hsi : (s.calls[i]?).any (·.pc.sent) = false := by simp [hc, hpc, CallPc.sent]
    rw [any_getElem?_set hc]
    grind [WorkerPc.holds, CallPc.sent]
  case take w i c hw _ hc hpc _ =>
    have ht := countP_set_add (p := WorkerPc.holds j) (a := .running i true) hw
    have hsi : (s.calls[i]?).any (·.pc.sent) = false := by simp [hc, hpc, CallPc.sent]
    rw [any_getElem?_set hc]
    grind [WorkerPc.holds, CallPc.sent]
  -- a worker moves a task from the buffer to its hands, or from its hands to the started list
  case receive w j' rest hw hb =>
    have ht := countP_set_add (p := WorkerPc.holds j) (a := .running j' false) hw
    rw [hb] at hj
    grind [WorkerPc.holds]
  case drainReceive w j' rest hw hb =>
    have ht := countP_set_add (p := WorkerPc.holds j) (a := .running j' true) hw
    rw [hb] at hj
    grind [WorkerPc.holds]
  case drain w hw _ =>
    have ht := countP_set_add (p := WorkerPc.holds j) (a := .draining) hw
    grind [WorkerPc.holds]
  case exit w hw _ _ =>
    have ht := countP_set_add (p := WorkerPc.holds j) (a := .exited) hw
    grind [WorkerPc.holds]
  case execute w j' d hw =>
    have ht := countP_set_add (p := WorkerPc.holds j) (a := .executing j' d) hw
    grind [WorkerPc.holds]
  case complete w j' d hw =>
    have ht := countP_set_add (p := WorkerPc.holds j) (a := if d then .draining else .waiting) hw
    cases d <;> grind [WorkerPc.holds]
  case shutdown => exact hj

theorem Step.reported (h : Step s s') (hcfg : s.config.configured = true)
    (hr : ∀ j, s.reports.countP (·.task == j) + s.running j = s.executed.count j) (j : Nat) :
    s'.reports.countP (·.task == j) + s'.running j = s'.executed.count j := by
  have hj := hr j
  simp only [running] at hj ⊢
  cases h <;> dsimp only [moveCall, setCall, setWorker]
  case handoff i c w _ _ _ hw =>
    have ht := countP_set_add (p := WorkerPc.runs j) (a := .running i false) hw
    grind [WorkerPc.runs]
  case take w i c hw _ _ _ _ =>
    have ht := countP_set_add (p := WorkerPc.runs j) (a := .running i true) hw
    grind [WorkerPc.runs]
  case receive w j' rest hw _ =>
    have ht := countP_set_add (p := WorkerPc.runs j) (a := .running j' false) hw
    grind [WorkerPc.runs]
  case drainReceive w j' rest hw _ =>
    have ht := countP_set_add (p := WorkerPc.runs j) (a := .running j' true) hw
    grind [WorkerPc.runs]
  case drain w hw _ =>
    have ht := countP_set_add (p := WorkerPc.runs j) (a := .draining) hw
    grind [WorkerPc.runs]
  case exit w hw _ _ =>
    have ht := countP_set_add (p := WorkerPc.runs j) (a := .exited) hw
    grind [WorkerPc.runs]
  case execute w j' d hw =>
    have ht := countP_set_add (p := WorkerPc.runs j) (a := .executing j' d) hw
    grind [WorkerPc.runs]
  case complete w j' d hw =>
    have ht := countP_set_add (p := WorkerPc.runs j) (a := if d then .draining else .waiting) hw
    simp only [hcfg, if_true, List.countP_append, List.countP_singleton, report_task] at ⊢
    cases d <;> grind [WorkerPc.runs]
  all_goals exact hj

/-- A missing task is refused before anything else, across one step. -/
theorem Step.missing (h : Step s s')
    (hm : ∀ c ∈ s.calls, c.job = none → c.pc = .start ∨ c.pc = .returned (.error missingTask)) :
    ∀ c ∈ s'.calls, c.job = none → c.pc = .start ∨ c.pc = .returned (.error missingTask) := by
  cases h <;> dsimp only [moveCall, setCall, setWorker]
  case submit =>
    intro c hc hj
    rcases List.mem_append.mp hc with hc | hc
    · exact hm c hc hj
    · simp only [List.mem_singleton] at hc
      subst hc
      exact .inl rfl
  case cancel i c hc _ _ =>
    intro c' hc' hj
    rcases List.mem_or_eq_of_mem_set hc' with hc' | rfl
    · exact hm c' hc' hj
    · exact hm c (List.mem_of_getElem? hc) hj
  case move i c pc hc hmv =>
    intro c' hc' hj
    rcases List.mem_or_eq_of_mem_set hc' with hc' | rfl
    · exact hm c' hc' hj
    · exact hmv.refusal_of_missing hj (hm c (List.mem_of_getElem? hc) hj)
  case count i c hc hpc =>
    intro c' hc' hj
    rcases List.mem_or_eq_of_mem_set hc' with hc' | rfl
    · exact hm c' hc' hj
    · simpa [hpc] using hm c (List.mem_of_getElem? hc) hj
  case send i c hc hpc _ =>
    intro c' hc' hj
    rcases List.mem_or_eq_of_mem_set hc' with hc' | rfl
    · exact hm c' hc' hj
    · simpa [hpc] using hm c (List.mem_of_getElem? hc) hj
  case handoff i c w hc hpc _ _ =>
    intro c' hc' hj
    rcases List.mem_or_eq_of_mem_set hc' with hc' | rfl
    · exact hm c' hc' hj
    · simpa [hpc] using hm c (List.mem_of_getElem? hc) hj
  case take w i c _ _ hc hpc _ =>
    intro c' hc' hj
    rcases List.mem_or_eq_of_mem_set hc' with hc' | rfl
    · exact hm c' hc' hj
    · simpa [hpc] using hm c (List.mem_of_getElem? hc) hj
  all_goals exact hm

theorem Step.submitted (h : Step s s') (hs : s.submitted = s.calls.countP (·.pc.counted)) :
    s'.submitted = s'.calls.countP (·.pc.counted) := by
  cases h <;> dsimp only [moveCall, setCall, setWorker]
  case submit => simp [List.countP_append, CallPc.counted, hs]
  case cancel i c hc _ _ =>
    have := countP_set_add (p := fun x : Call => x.pc.counted) (a := { c with canceled := true }) hc
    grind
  case move i c pc hc hm =>
    have := countP_set_add (p := fun x : Call => x.pc.counted) (a := { c with pc := pc }) hc
    grind [hm.sent_eq.2]
  case count i c hc hpc =>
    have := countP_set_add (p := fun x : Call => x.pc.counted) (a := { c with pc := .leaving (.ok ()) }) hc
    grind [CallPc.counted, Except.toBool]
  case send i c hc hpc _ =>
    have := countP_set_add (p := fun x : Call => x.pc.counted) (a := { c with pc := .counting }) hc
    grind [CallPc.counted]
  case handoff i c w hc hpc _ _ =>
    have := countP_set_add (p := fun x : Call => x.pc.counted) (a := { c with pc := .counting }) hc
    grind [CallPc.counted]
  case take w i c _ _ hc hpc _ =>
    have := countP_set_add (p := fun x : Call => x.pc.counted) (a := { c with pc := .counting }) hc
    grind [CallPc.counted]
  all_goals exact hs

theorem Step.completed (h : Step s s') (hc : s.completed + s.active = s.executed.length) :
    s'.completed + s'.active = s'.executed.length := by
  simp only [active] at hc ⊢
  cases h <;> dsimp only [moveCall, setCall, setWorker]
  case handoff i c w _ _ _ hw =>
    have := countP_set_add (p := WorkerPc.busy) (a := .running i false) hw
    grind [WorkerPc.busy]
  case take w i c hw _ _ _ _ =>
    have := countP_set_add (p := WorkerPc.busy) (a := .running i true) hw
    grind [WorkerPc.busy]
  case receive w j' rest hw _ =>
    have := countP_set_add (p := WorkerPc.busy) (a := .running j' false) hw
    grind [WorkerPc.busy]
  case drainReceive w j' rest hw _ =>
    have := countP_set_add (p := WorkerPc.busy) (a := .running j' true) hw
    grind [WorkerPc.busy]
  case drain w hw _ =>
    have := countP_set_add (p := WorkerPc.busy) (a := .draining) hw
    grind [WorkerPc.busy]
  case exit w hw _ _ =>
    have := countP_set_add (p := WorkerPc.busy) (a := .exited) hw
    grind [WorkerPc.busy]
  case execute w j' d hw =>
    have := countP_set_add (p := WorkerPc.busy) (a := .executing j' d) hw
    grind [WorkerPc.busy]
  case complete w j' d hw =>
    have := countP_set_add (p := WorkerPc.busy) (a := if d then .draining else .waiting) hw
    cases d <;> grind [WorkerPc.busy]
  all_goals exact hc

/-- While the shutdown holds the write lock, no call holds the read lock. -/
theorem Inv.holdsLock_eq_false (hi : s.Inv) (hw : s.writerHeld = true) (hc : c ∈ s.calls) :
    c.holdsLock = false := by
  have h0 := hi.writer hw
  unfold readers at h0
  simpa using List.countP_eq_zero.mp h0 c hc

/-- A task being executed was sent, so its call has a task. -/
theorem Inv.job_of_runs (hi : s.Inv) (hcfg : s.config.configured = true) {d : Bool}
    (hw : s.workers[w]? = some (.executing j d)) :
    ∃ c job, s.calls[j]? = some c ∧ c.job = some job := by
  have hrun : 0 < s.running j :=
    List.countP_pos_iff.mpr ⟨_, List.mem_of_getElem? hw, by simp [WorkerPc.runs]⟩
  have hex := hi.reported hcfg j
  have hpl := hi.places j
  have hsent : s.sent j = true := by
    cases hsj : s.sent j
    · rw [hsj, Bool.toNat_false] at hpl
      omega
    · rfl
  obtain ⟨c, hc, hcs⟩ := (Option.any_eq_true _ _).mp hsent
  refine ⟨c, ?_⟩
  cases hj : c.job with
  | none =>
    rcases hi.missing c (List.mem_of_getElem? hc) hj with h1 | h1 <;>
      simp [h1, CallPc.sent, Except.toBool] at hcs
  | some job => exact ⟨job, hc, rfl⟩

theorem Step.reports (h : Step s s') (hi : s.Inv) :
    ∀ r ∈ s'.reports, ∃ job,
      (s'.calls[r.task]?).bind (·.job) = some job ∧ r = finish s'.config r.task job := by
  intro r hr
  rw [h.config_eq]
  -- a report made before the step keeps its call's task
  have kept : r ∈ s.reports → ∃ job,
      (s'.calls[r.task]?).bind (·.job) = some job ∧ r = finish s.config r.task job := by
    intro hr₀
    obtain ⟨job, hjob, hrj⟩ := hi.reports r hr₀
    obtain ⟨c, hc, hcj⟩ := Option.bind_eq_some_iff.mp hjob
    obtain ⟨c', hc', hj'⟩ := h.job_eq hc
    exact ⟨job, by rw [hc']; simpa [hj'] using hcj, hrj⟩
  cases h
  case complete w j d hw =>
    dsimp only [setWorker] at hr ⊢
    split at hr
    · rename_i hcfg
      rcases List.mem_append.mp hr with hr | hr
      · exact kept hr
      · simp only [List.mem_singleton] at hr
        subst hr
        obtain ⟨c, job, hc, hj⟩ := hi.job_of_runs hcfg hw
        refine ⟨job, ?_, ?_⟩
        · simp [report_task, hc, hj]
        · simp [report, hc, hj, finish_task]
    · exact kept hr
  all_goals exact kept hr

theorem Step.writer (h : Step s s') (hi : s.Inv) : s'.writerHeld = true → s'.readers = 0 := by
  cases h <;> dsimp only [moveCall, setCall, setWorker, readers]
  case submit =>
    intro hw
    have h0 : s.calls.countP Call.holdsLock = 0 := hi.writer hw
    simp [h0, Call.holdsLock]
  case cancel i c hc _ _ =>
    intro hw
    have h0 : s.calls.countP Call.holdsLock = 0 := hi.writer hw
    have := countP_set_add (p := Call.holdsLock) (a := { c with canceled := true }) hc
    have hl : ({ c with canceled := true } : Call).holdsLock = c.holdsLock := rfl
    rw [hl] at this
    omega
  -- a call takes the read lock only while the write lock is free
  case move i c pc hc hm =>
    intro hw
    have h0 : s.calls.countP Call.holdsLock = 0 := hi.writer hw
    have hc0 := hi.holdsLock_eq_false hw (List.mem_of_getElem? hc)
    have hc1 : ({ c with pc := pc } : Call).holdsLock = false := by
      cases hl : ({ c with pc := pc } : Call).holdsLock
      · rfl
      · rcases hm.holdsLock hl with h1 | h1
        · rw [hc0] at h1; cases h1
        · cases hw.symm.trans h1
    have := countP_set_add (p := Call.holdsLock) (a := { c with pc := pc }) hc
    rw [hc0, hc1] at this
    omega
  case count i c hc hpc =>
    intro hw
    have := hi.holdsLock_eq_false hw (List.mem_of_getElem? hc)
    simp [Call.holdsLock, hpc] at this
  case send i c hc hpc _ =>
    intro hw
    have := hi.holdsLock_eq_false hw (List.mem_of_getElem? hc)
    simp [Call.holdsLock, hpc] at this
  case handoff i c w hc hpc _ _ =>
    intro hw
    have := hi.holdsLock_eq_false hw (List.mem_of_getElem? hc)
    simp [Call.holdsLock, hpc] at this
  case take w i c _ _ hc hpc _ =>
    intro hw
    have := hi.holdsLock_eq_false hw (List.mem_of_getElem? hc)
    simp [Call.holdsLock, hpc] at this
  -- the shutdown takes the write lock only once no call holds the read lock
  case shutdown pc hm =>
    cases hm
    case lock hr => exact fun _ => hr
    case flag hs => exact fun _ => hi.writer (by simp [writerHeld, hs])
    all_goals intro hw; simp [writerHeld] at hw
  all_goals exact hi.writer

theorem Step.flag (h : Step s s') (hi : s.Inv) :
    s'.isShutdown = true → ∀ c ∈ s'.calls, c.pc.inFlight = false := by
  cases h <;> dsimp only [moveCall, setCall, setWorker]
  case submit =>
    intro hs c hc
    rcases List.mem_append.mp hc with hc | hc
    · exact hi.flag hs c hc
    · simp only [List.mem_singleton] at hc
      subst hc
      rfl
  case cancel i c hc _ _ =>
    intro hs c' hc'
    rcases List.mem_or_eq_of_mem_set hc' with hc' | rfl
    · exact hi.flag hs c' hc'
    · exact hi.flag hs c (List.mem_of_getElem? hc)
  -- a call passes its shutdown check only while the flag is not set
  case move i c pc hc hm =>
    intro hs c' hc'
    rcases List.mem_or_eq_of_mem_set hc' with hc' | rfl
    · exact hi.flag hs c' hc'
    · cases hf : pc.inFlight
      · rfl
      · rcases hm.inFlight hf with h1 | h1
        · rw [hi.flag hs c (List.mem_of_getElem? hc)] at h1
          cases h1
        · cases hs.symm.trans h1
  case count i c hc hpc =>
    intro hs
    have := hi.flag hs c (List.mem_of_getElem? hc)
    simp [hpc, CallPc.inFlight] at this
  case send i c hc hpc _ =>
    intro hs
    have := hi.flag hs c (List.mem_of_getElem? hc)
    simp [hpc, CallPc.inFlight] at this
  case handoff i c w hc hpc _ _ =>
    intro hs
    have := hi.flag hs c (List.mem_of_getElem? hc)
    simp [hpc, CallPc.inFlight] at this
  case take w i c _ _ hc hpc _ =>
    intro hs
    have := hi.flag hs c (List.mem_of_getElem? hc)
    simp [hpc, CallPc.inFlight] at this
  -- the flag is set under the write lock, when no call is in flight
  case shutdown pc hm =>
    cases hm
    case flag hs =>
      intro _ c hc
      have hl := hi.holdsLock_eq_false (by simp [writerHeld, hs]) hc
      cases hf : c.pc.inFlight
      · rfl
      · rw [Call.holdsLock_of_inFlight hf] at hl
        cases hl
    case unlock hs => exact fun _ => hi.flag (by simp [isShutdown, hs, ShutdownPc.rank])
    case drain hs => exact fun _ => hi.flag (by simp [isShutdown, hs, ShutdownPc.rank])
    case finish hs _ => exact fun _ => hi.flag (by simp [isShutdown, hs, ShutdownPc.rank])
    all_goals intro hs; simp [isShutdown, ShutdownPc.rank] at hs
  all_goals exact hi.flag

theorem Step.drained (h : Step s s') (hi : s.Inv) :
    ∀ q ∈ s'.workers, q.drained = true → s'.drainClosed = true := by
  cases h <;> dsimp only [moveCall, setCall, setWorker]
  case handoff i c w _ _ _ hw =>
    intro q hq hd
    rcases List.mem_or_eq_of_mem_set hq with hq | rfl
    · exact hi.drained q hq hd
    · simp [WorkerPc.drained] at hd
  case receive w j rest hw _ =>
    intro q hq hd
    rcases List.mem_or_eq_of_mem_set hq with hq | rfl
    · exact hi.drained q hq hd
    · simp [WorkerPc.drained] at hd
  case drain w hw hdc => exact fun _ _ _ => hdc
  -- a worker that was draining already shows that the drain is closed
  case drainReceive w j rest hw _ => exact fun _ _ _ => hi.drained _ (List.mem_of_getElem? hw) rfl
  case take w i c hw _ _ _ _ => exact fun _ _ _ => hi.drained _ (List.mem_of_getElem? hw) rfl
  case exit w hw _ _ => exact fun _ _ _ => hi.drained _ (List.mem_of_getElem? hw) rfl
  case execute w j d hw =>
    intro q hq hd
    rcases List.mem_or_eq_of_mem_set hq with hq | rfl
    · exact hi.drained q hq hd
    · exact hi.drained _ (List.mem_of_getElem? hw) hd
  case complete w j d hw =>
    intro q hq hd
    rcases List.mem_or_eq_of_mem_set hq with hq | rfl
    · exact hi.drained q hq hd
    · exact hi.drained _ (List.mem_of_getElem? hw) (by cases d <;> simp_all [WorkerPc.drained])
  case shutdown pc hm =>
    intro q hq hd
    have h5 := hi.drained q hq hd
    have hle := (Step.shutdown hm).rank_le
    simp only [drainClosed, decide_eq_true_eq] at h5 hle ⊢
    omega
  all_goals exact hi.drained

theorem Step.emptied (h : Step s s') (hi : s.Inv) : WorkerPc.exited ∈ s'.workers → s'.buffer = [] := by
  cases h <;> dsimp only [moveCall, setCall, setWorker]
  -- a worker exited only after the drain closed, when no call can send any more
  case send i c hc hpc _ =>
    intro he
    have hdc : s.drainClosed = true := hi.drained _ he rfl
    have hs : s.isShutdown = true := by
      simp only [drainClosed, isShutdown, decide_eq_true_eq] at hdc ⊢
      omega
    have := hi.flag hs c (List.mem_of_getElem? hc)
    simp [hpc, CallPc.inFlight] at this
  case handoff i c w _ _ _ _ =>
    intro he
    rcases List.mem_or_eq_of_mem_set he with he | he
    · exact hi.emptied he
    · cases he
  case receive w j rest _ hb =>
    intro he
    rcases List.mem_or_eq_of_mem_set he with he | he
    · rw [hi.emptied he] at hb
      cases hb
    · cases he
  case drainReceive w j rest _ hb =>
    intro he
    rcases List.mem_or_eq_of_mem_set he with he | he
    · rw [hi.emptied he] at hb
      cases hb
    · cases he
  case drain w _ _ =>
    intro he
    rcases List.mem_or_eq_of_mem_set he with he | he
    · exact hi.emptied he
    · cases he
  case take w i c _ _ _ _ _ =>
    intro he
    rcases List.mem_or_eq_of_mem_set he with he | he
    · exact hi.emptied he
    · cases he
  case exit w _ hb _ => exact fun _ => hb
  case execute w j d _ =>
    intro he
    rcases List.mem_or_eq_of_mem_set he with he | he
    · exact hi.emptied he
    · cases he
  case complete w j d _ =>
    intro he
    rcases List.mem_or_eq_of_mem_set he with he | he
    · exact hi.emptied he
    · cases d <;> cases he
  all_goals exact hi.emptied

theorem Step.done (h : Step s s') (hi : s.Inv) : s'.done = true → ∀ q ∈ s'.workers, q = .exited := by
  cases h <;> dsimp only [moveCall, setCall, setWorker]
  -- a worker that moves has not exited, so the pool was not done
  case handoff i c w _ _ _ hw =>
    intro hd
    cases hi.done hd _ (List.mem_of_getElem? hw)
  case receive w j rest hw _ =>
    intro hd
    cases hi.done hd _ (List.mem_of_getElem? hw)
  case drain w hw _ =>
    intro hd
    cases hi.done hd _ (List.mem_of_getElem? hw)
  case drainReceive w j rest hw _ =>
    intro hd
    cases hi.done hd _ (List.mem_of_getElem? hw)
  case take w i c hw _ _ _ _ =>
    intro hd
    cases hi.done hd _ (List.mem_of_getElem? hw)
  case exit w hw _ _ =>
    intro hd
    cases hi.done hd _ (List.mem_of_getElem? hw)
  case execute w j d hw =>
    intro hd
    cases hi.done hd _ (List.mem_of_getElem? hw)
  case complete w j d hw =>
    intro hd
    cases hi.done hd _ (List.mem_of_getElem? hw)
  case shutdown pc hm =>
    cases hm
    case finish hall => exact fun _ => hall
    all_goals intro hd; simp [done] at hd
  all_goals exact hi.done

/-- Every step keeps the invariant. -/
theorem Step.inv (h : Step s s') (hi : s.Inv) : s'.Inv where
  places := h.places hi.places
  reported hcfg := by
    rw [h.config_eq] at hcfg
    exact h.reported hcfg (hi.reported hcfg)
  reports := h.reports hi
  missing := h.missing hi.missing
  submitted := h.submitted hi.submitted
  completed := h.completed hi.completed
  writer := h.writer hi
  flag := h.flag hi
  drained := h.drained hi
  emptied := h.emptied hi
  done := h.done hi

/-- A fresh pool keeps the invariant. -/
theorem inv_start (cfg : PoolConfig) : (start cfg).Inv where
  places j := by simp [start, sent, taken, WorkerPc.holds]
  reported _ j := by simp [start, running, WorkerPc.runs]
  reports r hr := by simp [start] at hr
  missing c hc := by simp [start] at hc
  submitted := by simp [start]
  completed := by simp [start, active, WorkerPc.busy]
  writer hw := by simp [start, writerHeld] at hw
  flag hs := by simp [start, isShutdown, ShutdownPc.rank] at hs
  drained q hq hd := by
    simp only [start, List.mem_replicate] at hq
    rw [hq.2] at hd
    cases hd
  emptied _ := rfl
  done hd := by simp [start, done] at hd

/-- Every pool a fresh pool can become keeps the invariant. -/
theorem inv_of_reaches {cfg : PoolConfig} (h : (start cfg).Reaches s) : s.Inv :=
  h.invariant (inv_start cfg) fun _ _ hi hs => hs.inv hi

theorem Step.workers_length (h : Step s s') : s'.workers.length = s.workers.length := by
  cases h <;> simp

theorem Reaches.config_eq (h : s.Reaches s') : s'.config = s.config ∧ s'.capacity = s.capacity ∧
    s'.workers.length = s.workers.length := by
  refine h.invariant (P := fun t => t.config = s.config ∧ t.capacity = s.capacity ∧
    t.workers.length = s.workers.length) ⟨rfl, rfl, rfl⟩ ?_
  intro a b ⟨hc, hk, hl⟩ hs
  refine ⟨hs.config_eq.trans hc, ?_, hs.workers_length.trans hl⟩
  cases hs <;> exact hk

end Keeps

end PoolState

end HostDispatch
