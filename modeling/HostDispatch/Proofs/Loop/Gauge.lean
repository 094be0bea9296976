import HostDispatch.Proofs.Loop.Close
import HostDispatch.Proofs.Scheduler.Cancel

/-!
# The pending gauge of a loop

A loop counts into its registry: one pending action more for each action it arms, one less for each
it cancels and for each one-shot firing it hands to the pool, and all of them less when Close drops
the queue; a cancel that finds its action not pending counts one misuse. Main statement:
`Loop.pending_gauge_exact`. For a loop made with a registry in which its name has counted nothing,
along any sequence of steps of its callers, its goroutine, the pool and Close, the pending gauge is
the number of pending actions plus the one-shot firings the goroutine has taken from the queue and
not yet handed on, so it equals the pending actions whenever the goroutine holds no firing; and the
misuse counter is the number of cancels that answered that the action was not pending.

The invariant `Loop.Gauged` carries it, with the queue kept well formed: a cancel of a pending
action then takes exactly one action out.
-/

namespace HostDispatch

namespace Metrics.Registry

/-- After adding to a series, the registry has it. -/
theorem any_add (r : Registry) (f : Family) (vs : List String) (d : Int) :
    (r.add f vs d).series.any (fun s => s.family == f && s.values == vs) = true := by
  unfold add
  split
  · rename_i hany
    obtain ⟨s, hs, hsp⟩ := List.any_eq_true.mp hany
    exact List.any_eq_true.mpr ⟨_, List.mem_map_of_mem hs, by simp_all⟩
  · simp

/-- Setting a series gives it the value set, and leaves every other series. -/
theorem value_set (r : Registry) (f f' : Family) (vs vs' : List String) (v : Int) :
    (r.set f vs v).value f' vs' = if f' = f ∧ vs' = vs then v else r.value f' vs' := by
  have hadd : (r.add f vs 0).value f' vs' = r.value f' vs' := by simp [value_add]
  have hany := any_add r f vs 0
  unfold set
  generalize r.add f vs 0 = r₀ at hadd hany
  unfold value at hadd ⊢
  rw [List.find?_map]
  -- setting changes the value of the series set and nothing a search looks at
  have hsame : ((fun s : Series => s.family == f' && s.values == vs') ∘
      fun s => if s.family == f && s.values == vs then { s with value := v } else s) =
      fun s => s.family == f' && s.values == vs' := by
    funext s
    simp only [Function.comp]
    split <;> rfl
  rw [hsame]
  cases hfind : r₀.series.find? (fun s => s.family == f' && s.values == vs') with
  | none =>
    have hm : ¬(f' = f ∧ vs' = vs) := by
      rintro ⟨rfl, rfl⟩
      obtain ⟨s, hs, hsp⟩ := List.any_eq_true.mp hany
      exact absurd hsp (by simpa using List.find?_eq_none.mp hfind s hs)
    rw [hfind] at hadd
    rw [if_neg hm, ← hadd]
    rfl
  | some x =>
    have hx := List.find?_some hfind
    simp only [Bool.and_eq_true, beq_iff_eq] at hx
    obtain ⟨hxf, hxv⟩ := hx
    subst hxf hxv
    by_cases hm : x.family = f ∧ x.values = vs
    · simp [hm]
    · rw [hfind] at hadd
      simp only [Option.map_some, Option.getD_some] at hadd ⊢
      rw [if_neg hm, ← hadd, if_neg (by simpa using hm)]

end Metrics.Registry

namespace Queue

/-- Canceling a pending action of a queue with distinct ids takes exactly that one out. -/
theorem size_cancel {q q' : Queue} {id : Nat} (hq : q.Wf) (h : q.cancel id = some q') :
    q'.size + 1 = q.size := by
  obtain ⟨⟨x, hx, rfl⟩, rfl⟩ := cancel_eq_some.mp h
  obtain ⟨pre, post, he, hf⟩ := Clock.filter_id_of_mem hq.nodup hx
  simp only [size]
  rw [hf, he]
  simp only [List.length_append, List.length_cons]
  omega

/-- A firing leaves one action less in the queue exactly when it fired a one-shot action. -/
theorem length_afterFiring (a : Action) (rest : List Action) (limit : Time) (skipMissed : Bool) :
    (afterFiring a rest limit skipMissed).length + (decide (a.kind = .once)).toNat =
      rest.length + 1 := by
  unfold afterFiring
  cases a.kind <;> simp

end Queue

/-- The one-shot firings among some firings: those whose action stops being pending. -/
def onceFirings (fs : List Firing) : Nat := fs.countP fun f => decide (f.kind = .once)

@[simp] theorem onceFirings_nil : onceFirings [] = 0 := rfl

@[simp] theorem onceFirings_cons (f : Firing) (fs : List Firing) :
    onceFirings (f :: fs) = (decide (f.kind = .once)).toNat + onceFirings fs := by
  by_cases h : f.kind = .once <;> simp [onceFirings, h, Nat.add_comm]

namespace Loop

variable {l l' : Loop}

/-- Taking the due firings keeps a queue well formed, and takes out one action for each one-shot
firing taken. -/
theorem takeDue_size {now : Time} :
    ∀ (fuel : Nat) {q : Queue}, q.Wf →
      (takeDue now fuel q).2.Wf ∧
        (takeDue now fuel q).2.size + onceFirings (takeDue now fuel q).1 = q.size
  | 0, q, hq => by simp [takeDue, hq]
  | fuel + 1, q, hq => by
    cases hp : q.popDue now true with
    | none => simp [takeDue, hp, hq]
    | some p =>
      obtain ⟨f, q₁⟩ := p
      obtain ⟨a, rest, he, -, rfl, rfl⟩ := Queue.popDue_eq_some.mp hp
      obtain ⟨hwf, hsize⟩ := takeDue_size fuel (Queue.afterFiring_wf hq he now true)
      have hlen := Queue.length_afterFiring a rest now true
      simp only [takeDue, hp]
      refine ⟨hwf, ?_⟩
      rw [onceFirings_cons]
      change _ + ((decide (a.kind = .once)).toNat + _) = _
      simp only [Queue.size, he, List.length_cons] at hsize ⊢
      omega

/-! ## The invariant -/

/-- Whether a step is a cancel that answered that its action is not pending. -/
def refusedCancel (l : Loop) : LoopAct → Bool
  | .cancel a =>
    match (l.cancel a).1 with
    | .error e => e.finds .actionNotPending
    | .ok () => false
  | _ => false

/-- The cancels along a sequence of steps that answered that their action was not pending. -/
def misuses : Loop → List LoopAct → Nat
  | _, [] => 0
  | l, act :: acts => (l.refusedCancel act).toNat + misuses ((l.next act).getD l) acts

/-- The pending gauge counts the pending actions and the one-shot firings the loop's goroutine
holds, over a well-formed queue. -/
structure Gauged (l : Loop) : Prop where
  registry : l.metrics.isSome = true
  wf : l.queue.Wf
  exact : l.metric .actionsPending [l.config.name] = l.pending + onceFirings l.turn.held

/-- What a step does to the misuse counter: it adds `n`. -/
def Misused (l l' : Loop) (n : Nat) : Prop :=
  l'.metric .cancelMisuse [l'.config.name] = l.metric .cancelMisuse [l.config.name] + n

theorem Misused.trans {l₁ l₂ l₃ : Loop} {m n : Nat} (h₁ : Misused l₁ l₂ m) (h₂ : Misused l₂ l₃ n) :
    Misused l₁ l₃ (m + n) := by
  unfold Misused at *
  rw [h₂, h₁]
  push_cast
  ring

/-- A step that keeps the queue, the firings the goroutine holds, the configuration and the
registry keeps the gauge exact and counts no misuse. -/
theorem Gauged.of_frame (hg : Gauged l) (hq : l'.queue = l.queue) (ht : l'.turn.held = l.turn.held)
    (hc : l'.config = l.config) (hm : l'.metrics = l.metrics) : Gauged l' ∧ Misused l l' 0 := by
  refine ⟨⟨hm ▸ hg.registry, hq ▸ hg.wf, ?_⟩, ?_⟩
  · rw [metric, hm, hc, ← metric, hg.exact, pending, pending, hq, ht]
  · rw [Misused, metric, metric, hm, hc]
    simp

/-! ## One step of each kind -/

/-- An arming that succeeds adds one action to the queue and one to the gauge. -/
theorem Gauged.schedule (hg : Gauged l) {c : Option Nat} {kind : Kind} {d : Int} {id : Nat}
    (h : l.schedule c kind d = .ok (id, l')) : Gauged l' ∧ Misused l l' 0 := by
  unfold Loop.schedule at h
  cases c with
  | none => cases h
  | some c =>
    simp only at h
    split at h
    · cases h
    split at h
    · cases h
    rw [Queue.arm_eq] at h
    obtain ⟨-, rfl⟩ := Prod.mk.inj (Except.ok.inj h)
    obtain ⟨r, hr⟩ := Option.isSome_iff_exists.mp hg.registry
    have hex := hg.exact
    refine ⟨⟨by simp [hr], ?_, ?_⟩, ?_⟩
    · rw [count_queue, ← Queue.arm_eq]
      exact Queue.arm_wf hg.wf _ _ _ _
    · simp only [metric, pending, hr, Option.map_some, Option.getD_some] at hex ⊢
      simp [Metrics.Registry.value_add, Metrics.Registry.value_inc, hex, Queue.size]
      omega
    · simp [Misused, metric, hr, Metrics.Registry.value_add, Metrics.Registry.value_inc]

/-- A cancel of a pending action takes it out of the queue and one off the gauge; a refused one
counts one misuse; after Close a cancel does nothing. -/
theorem Gauged.cancel (hg : Gauged l) (a : Option Nat) :
    Gauged (l.cancel a).2 ∧ Misused l (l.cancel a).2 (l.refusedCancel (.cancel a)).toNat := by
  obtain ⟨r, hr⟩ := Option.isSome_iff_exists.mp hg.registry
  have hex := hg.exact
  simp only [refusedCancel]
  unfold Loop.cancel
  by_cases hc : l.closed = true
  · simp only [hc, if_true]
    exact ⟨hg, by simp [Misused]⟩
  simp only [hc, Bool.false_eq_true, if_false]
  split
  · rename_i hq
    obtain ⟨id, -, hid⟩ := Option.bind_eq_some_iff.mp hq
    have hsize := Queue.size_cancel hg.wf hid
    refine ⟨⟨by simp [hr], Queue.cancel_wf hg.wf hid, ?_⟩, ?_⟩
    · simp only [metric, pending, hr, Option.map_some, Option.getD_some] at hex ⊢
      simp [Metrics.Registry.value_add, Metrics.Registry.value_inc, hex]
      omega
    · simp [Misused, metric, hr, Metrics.Registry.value_add, Metrics.Registry.value_inc]
  · refine ⟨⟨by simp [hr], hg.wf, ?_⟩, ?_⟩
    · simp only [metric, pending, hr, Option.map_some, Option.getD_some] at hex ⊢
      simp [hr, Metrics.Registry.value_inc, hex]
    · simp [Misused, metric, hr, Metrics.Registry.value_inc, Fault.finds]

/-- Waking takes the due firings from the queue into the goroutine's hands: each one-shot firing
leaves the queue and is held instead. -/
theorem Gauged.wake (hg : Gauged l) (hturn : l.turn = .idle) {batch : List Firing} {q : Queue}
    (ht : takeDue l.now (l.queue.size + 1) l.queue = (batch, q)) :
    Gauged { l with queue := q, turn := Turn.after batch } ∧
      Misused l { l with queue := q, turn := Turn.after batch } 0 := by
  obtain ⟨hwf, hsize⟩ := @takeDue_size l.now (l.queue.size + 1) l.queue hg.wf
  rw [ht] at hwf hsize
  dsimp only at hwf hsize
  refine ⟨⟨hg.registry, hwf, ?_⟩, by simp [Misused, metric]⟩
  rw [show metric { l with queue := q, turn := Turn.after batch } = l.metric from rfl, hg.exact]
  simp only [pending, hturn, held_idle, onceFirings_nil, held_after]
  omega

@[simp] theorem submit_metrics (f : Firing) (rest : List Firing) :
    (l.submit f rest).metrics = l.metrics.map fun m =>
      if f.kind = .once then
        (m.inc .actionsFired [l.config.name, f.kind.name]).add .actionsPending [l.config.name] (-1)
      else m.inc .actionsFired [l.config.name, f.kind.name] := rfl

/-- Handing a firing to the pool counts it as fired, and a one-shot firing one off the gauge. -/
theorem Gauged.submit (hg : Gauged l) {f : Firing} {rest : List Firing}
    (hturn : l.turn = .delivering f rest) :
    Gauged (l.submit f rest) ∧ Misused l (l.submit f rest) 0 := by
  obtain ⟨r, hr⟩ := Option.isSome_iff_exists.mp hg.registry
  have hex := hg.exact
  rw [hturn, held_delivering, onceFirings_cons] at hex
  refine ⟨⟨by simp [hr], hg.wf, ?_⟩, ?_⟩
  · simp only [metric, pending, submit_metrics, submit_config, submit_queue, submit_turn,
      held_submitting, hr, Option.map_some, Option.getD_some] at hex ⊢
    by_cases ho : f.kind = .once
    · simp [ho, Metrics.Registry.value_add, Metrics.Registry.value_inc] at hex ⊢
      omega
    · simp [ho, Metrics.Registry.value_inc] at hex ⊢
      omega
  · simp only [Misused, metric, submit_metrics, submit_config, hr, Option.map_some,
      Option.getD_some]
    split <;> simp [Metrics.Registry.value_add, Metrics.Registry.value_inc]

/-- Reading the pool's answer counts a refusal as a dropped firing, into another series. -/
theorem Gauged.settle (hg : Gauged l) {i : Nat} {rest : List Firing}
    (hturn : l.turn = .submitting i rest) (r : Except Fault Unit) :
    Gauged (l.settle r i rest) ∧ Misused l (l.settle r i rest) 0 := by
  cases r with
  | ok u => exact hg.of_frame rfl (by simp [Loop.settle, hturn]) rfl rfl
  | error e =>
    obtain ⟨r, hr⟩ := Option.isSome_iff_exists.mp hg.registry
    have hex := hg.exact
    rw [hturn, held_submitting] at hex
    refine ⟨⟨by simp [Loop.settle, report, hr], hg.wf, ?_⟩, ?_⟩
    · simp only [metric, pending, hr, Option.map_some, Option.getD_some] at hex ⊢
      simp [Loop.settle, report, hr, Metrics.Registry.value_inc, hex]
    · simp [Misused, metric, Loop.settle, report, hr, Metrics.Registry.value_inc]

/-- The pool's steps and the handlers they run leave the queue, the goroutine, the configuration
and the registry alone. -/
theorem work_frame {a : Pool.Act} (h : l.work a = some l') :
    l'.queue = l.queue ∧ l'.turn = l.turn ∧ l'.config = l.config ∧ l'.metrics = l.metrics := by
  cases a with
  | call i pick =>
    obtain ⟨p, -, rfl⟩ := Option.map_eq_some_iff.mp h
    exact ⟨rfl, rfl, rfl, rfl⟩
  | worker w pick =>
    obtain ⟨p, hp, -⟩ := Option.map_eq_some_iff.mp h
    rw [work_worker hp, Option.some.injEq] at h
    subst h
    split
    · have hh := startTask_handled (l := { l with pool := p }) ‹_›
      exact ⟨hh.queue, hh.turn, hh.config, hh.metrics⟩
    · exact ⟨rfl, rfl, rfl, rfl⟩
  | shutdown =>
    simp only [work] at h
    split at h
    · obtain ⟨p, -, rfl⟩ := Option.map_eq_some_iff.mp h
      exact ⟨rfl, rfl, rfl, rfl⟩
    · cases h
  | submit => cases h
  | cancel => cases h

/-- Close's steps drop the queue and take all of it off the gauge at once, and then only wait. -/
theorem Gauged.closeStep (hg : Gauged l) (h : l.closeStep = some l') :
    Gauged l' ∧ Misused l l' 0 := by
  unfold Loop.closeStep at h
  split at h
  · simp only [Queue.dropAll, Option.some.injEq] at h
    subst h
    obtain ⟨r, hr⟩ := Option.isSome_iff_exists.mp hg.registry
    have hex := hg.exact
    have hwf : Queue.Wf { l.queue with entries := [] } := Queue.wf_empty _
    simp only [metric, pending, hr, Option.map_some, Option.getD_some] at hex
    by_cases hzero : l.queue.entries.length = 0
    · simp only [hzero, ↓reduceIte]
      refine ⟨⟨hg.registry, hwf, ?_⟩, by simp [Misused, metric]⟩
      simp [metric, pending, Queue.size, hr, hex, hzero]
    · simp only [hzero, ↓reduceIte]
      refine ⟨⟨by simp [hr], hwf, ?_⟩, ?_⟩
      · simp [metric, pending, hr, Metrics.Registry.value_add, hex, Queue.size]
      · simp [Misused, metric, hr, Metrics.Registry.value_add]
  · cases h
    exact hg.of_frame rfl rfl rfl rfl
  · split at h
    · split at h
      · cases h
        exact hg.of_frame rfl rfl rfl rfl
      · cases h
        exact hg.of_frame (by simp) (by simp) (by simp) (by simp)
    · cases h
  · split at h
    · cases h
      exact hg.of_frame (by simp) (by simp) (by simp) (by simp)
    · cases h
  · cases h
    exact hg.of_frame rfl rfl rfl rfl

/-- A new continuation touches only the continuations. -/
theorem newContinuation_frame {k : Option Counter} {i : Nat} (h : l.newContinuation k = .ok (i, l')) :
    l'.queue = l.queue ∧ l'.turn = l.turn ∧ l'.config = l.config ∧ l'.metrics = l.metrics := by
  unfold Loop.newContinuation at h
  cases k with
  | none => cases h
  | some c =>
    simp only at h
    split at h
    · cases h
    · cases h
      exact ⟨rfl, rfl, rfl, rfl⟩

/-- Destroying a continuation touches only the continuations. -/
theorem destroy_frame (c : Option Nat) :
    (l.destroy c).queue = l.queue ∧ (l.destroy c).turn = l.turn ∧
      (l.destroy c).config = l.config ∧ (l.destroy c).metrics = l.metrics := by
  unfold Loop.destroy
  split
  · split <;> exact ⟨rfl, rfl, rfl, rfl⟩
  · exact ⟨rfl, rfl, rfl, rfl⟩

/-- Every step keeps the gauge exact, and counts one misuse exactly for a refused cancel. -/
theorem Gauged.next (hg : Gauged l) {act : LoopAct} (h : l.next act = some l') :
    Gauged l' ∧ Misused l l' (l.refusedCancel act).toNat := by
  cases act with
  | newContinuation k =>
    cases h
    split
    · obtain ⟨hq, ht, hc, hm⟩ := newContinuation_frame ‹_›
      exact hg.of_frame hq (by rw [ht]) hc hm
    · exact ⟨hg, by simp [Misused, refusedCancel]⟩
  | schedule c kind d =>
    cases h
    split
    · exact hg.schedule ‹_›
    · exact ⟨hg, by simp [Misused, refusedCancel]⟩
  | cancel a =>
    cases h
    exact hg.cancel a
  | destroy c =>
    cases h
    obtain ⟨hq, ht, hc, hm⟩ := destroy_frame (l := l) c
    exact hg.of_frame hq (by rw [ht]) hc hm
  | tick t =>
    cases h
    split
    · exact hg.of_frame rfl rfl rfl rfl
    · exact ⟨hg, by simp [Misused, refusedCancel]⟩
  | wake =>
    obtain ⟨hturn, batch, q, ht, rfl⟩ := next_wake h
    exact hg.wake hturn ht
  | submit =>
    obtain ⟨f, rest, hturn, rfl⟩ := next_submit h
    exact hg.submit hturn
  | settle =>
    obtain ⟨i, rest, r, hturn, -, rfl⟩ := next_settle h
    exact hg.settle hturn r
  | exit =>
    obtain ⟨hturn, -, rfl⟩ := next_exit h
    exact hg.of_frame rfl (by simp [hturn]) rfl rfl
  | work a =>
    obtain ⟨hq, ht, hc, hm⟩ := work_frame h
    exact hg.of_frame hq (by rw [ht]) hc hm
  | close => exact hg.closeStep h

/-- A step that cannot be taken is no cancel, since a cancel can always be taken. -/
theorem refusedCancel_of_next_none {act : LoopAct} (h : l.next act = none) :
    l.refusedCancel act = false := by
  cases act with
  | cancel a => cases h
  | _ => rfl

theorem steps_cons (act : LoopAct) (acts : List LoopAct) :
    l.steps (act :: acts) = ((l.next act).getD l).steps acts := rfl

theorem steps_config (acts : List LoopAct) : (l.steps acts).config = l.config := by
  induction acts generalizing l with
  | nil => rfl
  | cons act acts ih =>
    rw [steps_cons, ih]
    cases hn : l.next act with
    | none => rfl
    | some l₁ => exact (step_of_next hn).config_eq

/-- Along any sequence of steps the gauge stays exact, and the misuse counter grows by the number
of refused cancels. -/
theorem Gauged.steps (hg : Gauged l) (acts : List LoopAct) :
    Gauged (l.steps acts) ∧ Misused l (l.steps acts) (misuses l acts) := by
  induction acts generalizing l with
  | nil => exact ⟨hg, by simp [Misused, misuses, Loop.steps]⟩
  | cons act acts ih =>
    rw [steps_cons, misuses]
    cases hn : l.next act with
    | none =>
      obtain ⟨hg', hm'⟩ := ih hg
      rw [refusedCancel_of_next_none hn]
      exact ⟨hg', by simpa using hm'⟩
    | some l₁ =>
      obtain ⟨hg₁, hm₁⟩ := hg.next hn
      obtain ⟨hg', hm'⟩ := ih hg₁
      exact ⟨hg', hm₁.trans hm'⟩

/-! ## A loop just made -/

/-- A loop just made reads its registry as given in every family but the gauges of its own
pool. -/
theorem make_counts {cfg : LoopConfig} {reg : Metrics.Registry} {logger : Log.Logger}
    (hmake : Loop.make cfg (some reg) logger = .ok l) :
    ∀ fam, fam ≠ .poolSize → fam ≠ .poolActive → fam ≠ .poolQueued →
      ∀ vs, l.metric fam vs = reg.value fam vs := by
  unfold make at hmake
  cases hv : cfg.withDefaults.validate with
  | error e => simp [hv, bind, Except.bind] at hmake
  | ok u =>
    simp only [hv, bind, Except.bind, pure, Except.pure, Except.ok.injEq] at hmake
    subst hmake
    intro fam h₁ h₂ h₃ vs
    split <;> simp [metric, Metrics.Registry.value_set, h₁, h₂, h₃]

theorem Gauged.make {cfg : LoopConfig} {reg : Metrics.Registry} {logger : Log.Logger}
    (hmake : Loop.make cfg (some reg) logger = .ok l)
    (hfresh : reg.value .actionsPending [cfg.withDefaults.name] = 0) : Gauged l := by
  obtain ⟨-, -, hcfg, hturn, -, -, hreg, hq⟩ := make_eq hmake
  refine ⟨by simpa using hreg, hq ▸ Queue.wf_empty 0, ?_⟩
  rw [make_counts hmake _ (by decide) (by decide) (by decide), hcfg, hfresh, hturn, pending, hq]
  rfl

/-! ## The gauge along any run -/

/-- **The pending gauge is exact.** After any steps of a loop's callers, goroutine, pool and Close,
the pending gauge is the number of pending actions plus the one-shot firings taken and not yet
handed to the pool, and the misuse counter is the number of refused cancels. -/
theorem pending_gauge_exact {cfg : LoopConfig} {reg : Metrics.Registry} {logger : Log.Logger}
    {l₀ : Loop} (hmake : Loop.make cfg (some reg) logger = .ok l₀)
    (hfresh : reg.value .actionsPending [cfg.withDefaults.name] = 0 ∧
      reg.value .cancelMisuse [cfg.withDefaults.name] = 0)
    (acts : List LoopAct) :
    (l₀.steps acts).metric .actionsPending [l₀.config.name] =
        (l₀.steps acts).pending + onceFirings (l₀.steps acts).turn.held ∧
      ((l₀.steps acts).turn.held = [] →
        (l₀.steps acts).metric .actionsPending [l₀.config.name] = (l₀.steps acts).pending) ∧
      (l₀.steps acts).metric .cancelMisuse [l₀.config.name] = misuses l₀ acts := by
  obtain ⟨-, -, hcfg, -, -, -, -, -⟩ := make_eq hmake
  obtain ⟨hg, hm⟩ := (Gauged.make hmake hfresh.1).steps acts
  have hexact := hg.exact
  rw [steps_config] at hexact
  -- the misuse counter starts at zero, since making the loop counts only its pool's gauges
  have hzero : l₀.metric .cancelMisuse [l₀.config.name] = 0 := by
    rw [make_counts hmake _ (by decide) (by decide) (by decide), hcfg, hfresh.2]
  refine ⟨hexact, fun hheld => by simpa [hheld] using hexact, ?_⟩
  unfold Misused at hm
  rw [steps_config] at hm
  rw [hm, hzero, zero_add]

/-- A loop with a fresh registry makes a continuation, arms a one-shot action on it and cancels it
twice: the second cancel is refused and counted as the one misuse, and nothing is pending. -/
theorem arm_and_cancel_twice_gauge :
    let cfg : LoopConfig := { name := "ticker", workers := 2, queueSize := 1 }
    let reg : Metrics.Registry := { space := "goasync", constLabels := [] }
    let acts : List LoopAct := [.newContinuation (some {}), .schedule (some 1) .once 5,
      .cancel (some 1), .cancel (some 1)]
    ∃ l₀, Loop.make cfg (some reg) default = .ok l₀ ∧
      (reg.value .actionsPending [cfg.withDefaults.name] = 0 ∧
        reg.value .cancelMisuse [cfg.withDefaults.name] = 0) ∧
      (l₀.steps acts).metric .actionsPending [l₀.config.name] =
          (l₀.steps acts).pending + onceFirings (l₀.steps acts).turn.held ∧
        ((l₀.steps acts).turn.held = [] →
          (l₀.steps acts).metric .actionsPending [l₀.config.name] = (l₀.steps acts).pending) ∧
        (l₀.steps acts).metric .cancelMisuse [l₀.config.name] = misuses l₀ acts := by
  intro cfg reg acts
  exact ⟨_, rfl, ⟨rfl, rfl⟩, @pending_gauge_exact cfg reg default _ rfl ⟨rfl, rfl⟩ acts⟩

end Loop

end HostDispatch
