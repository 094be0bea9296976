import HostDispatch.Proofs.Cron.Effects
import HostDispatch.Proofs.Timer.Grid

/-!
# When a cron task fires

A cron task run at time `s` fires at its activations (`CronTask.activation`): the first is the
schedule's next activation after `s`, read in the task's zone, and each later one the next after
the one before, until one is the zero time. Each firing re-arms for the next activation before it
dispatches, as a one-shot delayed by the activation's distance from the clock's time, so the clock
stands at the activation when the one-shot fires.

The schedule is taken to advance (`Cron.Schedule.Advances`): its next activation after a time is
the zero time or later, by no more than the longest delay a port arms. A constant delay of at least
a second does.

`CronTask.Fired` says what the task's slot, its gate and the clock hold after `n` dispatches: the
task holds its `n`-th activation (`CronTask.Holding`), one one-shot due at it, or nothing once it
is the zero time. Running the task, firing it and anything else that leaves its continuation alone
keep this. Over a session of advances (`Scenario.CronSession`) this gives
`cron_fires_at_its_activations`: the task is dispatched exactly at its activations, with the clock
at each, up to the furthest target the clock has been advanced to and up to the first zero time.
-/

namespace HostDispatch

namespace Cron

/-- What a schedule's next activation is taken to satisfy: after any time `u` it is the zero time,
or later than `u` by a delay a port arms, at most the largest signed 64-bit count of
nanoseconds. -/
def Schedule.Advances (s : Schedule) : Prop :=
  ∀ u, (s.next u).isZero = true ∨ (u.ns < (s.next u).ns ∧ (s.next u).ns - u.ns ≤ Time.maxNanos)

/-- A constant delay of at least a second, and at most the longest delay a port arms, advances:
its next activation is the delay after the start of the second. -/
theorem every_advances {d : Int} (h₁ : Time.nanosPerSecond ≤ d) (h₂ : d ≤ Time.maxNanos) :
    (Schedule.every d).Advances := by
  intro u
  right
  have hpos : (0 : Int) < Time.nanosPerSecond := by decide
  have h₀ : 0 ≤ subsecond u := Int.emod_nonneg _ (Int.ne_of_gt hpos)
  have hlt : subsecond u < Time.nanosPerSecond := Int.emod_lt_of_pos _ hpos
  simp only [Schedule.next, Time.add]
  omega

end Cron

/-- A delay to a later time, within the longest delay a port arms, is armed as it is. -/
theorem Kind.clamp_sub {next now : Time} (hlt : now.ns < next.ns)
    (hle : next.ns - now.ns ≤ Time.maxNanos) :
    Kind.clamp .once (next.sub now) = next.ns - now.ns := by
  simp only [Kind.clamp, Time.sub, Time.saturate, Time.maxNanos, Time.minNanos] at hle ⊢
  omega

namespace CronTask

variable {t : CronTask}

/-- The next activation depends on the instant asked about, not on the zone it is read in. -/
theorem nextActivation_congr (t : CronTask) {a b : Time} (h : a.ns = b.ns) :
    t.nextActivation a = t.nextActivation b := by
  have hz : a.inZone t.zone = b.inZone t.zone := by
    cases a
    cases b
    simp_all [Time.inZone]
  simp [nextActivation, hz]

/-- Two tasks on one schedule in one zone have the same next activations. -/
theorem nextActivation_of_eq {t' : CronTask} (hs : t'.schedule = t.schedule)
    (hz : t'.zone = t.zone) (now : Time) : t'.nextActivation now = t.nextActivation now := by
  simp [nextActivation, hs, hz]

/-- On a schedule that advances, the next activation is the zero time or after the time asked
about, by a delay a port arms. -/
theorem nextActivation_advances (hadv : t.schedule.Advances) (now : Time) :
    (t.nextActivation now).isZero = true ∨
      (now.ns < (t.nextActivation now).ns ∧ (t.nextActivation now).ns - now.ns ≤ Time.maxNanos) :=
  hadv (now.inZone t.zone)

/-! ## Activations -/

/-- The activations of a task from time `s`: the first after `s`, then each after the one before,
all read in the task's zone. -/
def activation (t : CronTask) (s : Time) : Nat → Time
  | 0 => t.nextActivation s
  | n + 1 => t.nextActivation (t.activation s n)

/-- The `m` activations from the `n`-th on. -/
def activations (t : CronTask) (s : Time) (n m : Nat) : List Time :=
  (List.range m).map fun i => t.activation s (n + i)

@[simp] theorem activations_zero (t : CronTask) (s : Time) (n : Nat) : t.activations s n 0 = [] :=
  rfl

theorem activations_succ (t : CronTask) (s : Time) (n m : Nat) :
    t.activations s n (m + 1) = t.activation s n :: t.activations s (n + 1) m := by
  rw [activations, List.range_succ_eq_map, List.map_cons, List.map_map]
  congr 1
  refine List.map_congr_left fun i _ => ?_
  simp only [Function.comp, show n + (i + 1) = n + 1 + i by omega]

/-- Activations counted in two runs concatenate. -/
theorem activations_add (t : CronTask) (s : Time) (n a b : Nat) :
    t.activations s n (a + b) = t.activations s n a ++ t.activations s (n + a) b := by
  simp only [activations, List.range_add, List.map_append, List.map_map]
  congr 1
  refine List.map_congr_left fun i _ => ?_
  simp [Function.comp, Nat.add_assoc]

section Advancing

variable {s : Time} (hadv : t.schedule.Advances)
include hadv

/-- An activation that is a time comes after the one before. -/
theorem activation_lt_succ {j : Nat} (hz : (t.activation s (j + 1)).isZero = false) :
    (t.activation s j).ns < (t.activation s (j + 1)).ns := by
  rcases t.nextActivation_advances hadv (t.activation s j) with h | ⟨h, -⟩
  · simp [activation, h] at hz
  · exact h

/-- Activations that are all times come in order. -/
theorem activation_mono {i j : Nat} (hij : i ≤ j)
    (hz : ∀ l ≤ j, (t.activation s l).isZero = false) :
    (t.activation s i).ns ≤ (t.activation s j).ns := by
  induction j with
  | zero =>
    rw [Nat.le_zero.mp hij]
  | succ j ih =>
    rcases Nat.eq_or_lt_of_le hij with rfl | hlt
    · exact Int.le_refl _
    · have h₁ := ih (by omega) fun l hl => hz l (by omega)
      have h₂ := activation_lt_succ hadv (hz (j + 1) (Nat.le_refl _))
      omega

end Advancing

/-! ## What the task holds -/

/-- The task `t'` on clock `k` holds its activation `next` on continuation `cont`: nothing, with
the zero time as its next, when `next` is the zero time; and otherwise one one-shot pending on the
continuation, due at `next`, which is its next. -/
def Holding (t' : CronTask) (k : Clock) (cont : Nat) (next : Time) : Prop :=
  (next.isZero = true ∧ t'.pending = none ∧ t'.next = Time.zero ∧ k.pendingOn cont = []) ∨
    (next.isZero = false ∧ t'.next = next ∧
      ∃ a, k.pendingOn cont = [a] ∧ t'.pending = some a.id ∧ a.kind = .once ∧ a.due.ns = next.ns)

/-- Arming a task that holds nothing, on a live continuation with nothing pending, through a gate
that lets every one-shot through, on a schedule that advances: the arming succeeds, keeps the
clock's time and invariant and the continuation live, and leaves the task holding its next
activation after the clock's time. -/
theorem armEffect_fresh {g : Gate} {k : Clock} (hadv : t.schedule.Advances) (hk : k.Inv)
    (hn : t.pending = none) (hgo : g.onceLimit = none) (hl : k.isDestroyed t.cont = false)
    (hpend : k.pendingOn t.cont = []) :
    (t.armEffect g k).1 = .ok () ∧ (t.armEffect g k).2.2.1.onceLimit = none ∧
      (t.armEffect g k).2.2.2.Inv ∧ (t.armEffect g k).2.2.2.now = k.now ∧
      (t.armEffect g k).2.2.2.isDestroyed t.cont = false ∧
      Holding (t.armEffect g k).2.1 (t.armEffect g k).2.2.2 t.cont (t.nextActivation k.now) := by
  cases hz : (t.nextActivation k.now).isZero with
  | true =>
    rw [armEffect_of_isZero hz]
    exact ⟨rfl, hgo, hk, rfl, hl, .inl ⟨hz, hn, rfl, hpend⟩⟩
  | false =>
    -- The activation is after the clock's time, within the longest delay, so the one-shot is
    -- armed for the activation's distance from now and is due at it.
    obtain ⟨hlt, hle⟩ := (t.nextActivation_advances hadv k.now).resolve_left (by simp [hz])
    obtain ⟨k', harm, hpk, hnow, hl', hk'⟩ := Gate.arm_fresh (g := g) .once
      ((t.nextActivation k.now).sub (k.now.inZone t.zone)) hk
      (by simp [Gate.take, hgo, Gate.admits]) hl hpend
    rw [armEffect_of_arm hz harm]
    refine ⟨rfl, by simp [Gate.take, hgo], hk', hnow, hl', .inr ⟨hz, rfl, _, hpk, rfl, rfl, ?_⟩⟩
    have hns : (k.now.inZone t.zone).ns = k.now.ns := rfl
    rw [Kind.clamp_sub (hns ▸ hlt) (hns ▸ hle)]
    simp only [Queue.armed, Time.add]
    omega

/-! ## A task on its activations -/

/-- The task `t'` with gate `g'` on clock `k` is the task `t`, run with controller `c` at time `s`
and dispatched `n` times. It keeps its schedule, zone, continuation and controller and is not
destroyed, its gate lets every one-shot through, its continuation is live, its first `n`
activations were times, and it holds its `n`-th. -/
structure Fired (t : CronTask) (c : ControllerRef) (s : Time) (n : Nat) (t' : CronTask)
    (g' : Gate) (k : Clock) : Prop where
  schedule : t'.schedule = t.schedule
  zone : t'.zone = t.zone
  cont : t'.cont = t.cont
  controller : t'.controller = some c
  alive : t'.destroyed = false
  onceLimit : g'.onceLimit = none
  live : k.isDestroyed t.cont = false
  passed : ∀ j < n, (t.activation s j).isZero = false
  holding : Holding t' k t.cont (t.activation s n)

section Fired

variable {c : ControllerRef} {s : Time} {n : Nat} {t' : CronTask} {g' : Gate} {k : Clock}

theorem Fired.aside (h : Fired t c s n t' g' k) {k' : Clock} (ha : Clock.Aside t.cont k k') :
    Fired t c s n t' g' k' :=
  { h with
    live := ha.destroyed.trans h.live
    holding := by
      unfold Holding
      rw [ha.pending]
      exact h.holding }

/-- When an advance to `target` finds nothing due, the task's next activation, if it is a time, is
after `target`. -/
theorem Fired.finish (h : Fired t c s n t' g' k) (hk : k.Inv) {target : Time}
    (hn : k.takeDue target = none) :
    Fired t c s n t' g' (k.finishAdvance target) ∧
      ((t.activation s n).isZero = false → target.ns < (t.activation s n).ns) := by
  refine ⟨h.aside ⟨rfl, rfl⟩, fun hz => ?_⟩
  rcases h.holding with ⟨hz', -⟩ | ⟨-, -, a, ha, -, -, hdue⟩
  · simp [hz] at hz'
  · have hlt := Queue.lt_due_of_popDue_eq_none hk.wf (Clock.takeDue_eq_none.mp hn)
    rw [← hdue]
    exact hlt a (Clock.mem_pendingOn.mp (ha ▸ List.mem_singleton_self a)).1

/-- Running a fresh task with a controller, on a live continuation with nothing pending and a gate
that lets every one-shot through, leaves it holding its first activation after the clock's
time. -/
theorem fired_run {g : Gate} {k : Clock} (c : ControllerRef) (hadv : t.schedule.Advances)
    (hk : k.Inv) (hr : t.ran = false) (hd : t.destroyed = false) (hn : t.pending = none)
    (hpend : k.pendingOn t.cont = []) (hl : k.isDestroyed t.cont = false)
    (hgo : g.onceLimit = none) :
    Fired t c k.now 0 (t.runEffect (some c) g k).1 (t.runEffect (some c) g k).2.1
        (t.runEffect (some c) g k).2.2 ∧
      (t.runEffect (some c) g k).2.2.Inv := by
  let t₁ : CronTask := { t with ran := true, controller := some c }
  obtain ⟨hok, hgo', hk', -, hl', hheld⟩ :=
    armEffect_fresh (t := t₁) (g := g) hadv hk hn hgo hl hpend
  have hframe := armEffect_frame t₁ g k
  rcases harm : t₁.armEffect g k with ⟨r, t', g', k'⟩
  rw [harm] at hok hgo' hk' hl' hheld hframe
  cases hok
  rw [runEffect_of_arm_ok hd hr harm]
  refine ⟨⟨by rw [hframe], by rw [hframe], by rw [hframe], by rw [hframe], by rw [hframe]; exact hd,
    hgo', hl', fun j hj => absurd hj (Nat.not_lt_zero j), hheld⟩, hk'⟩

/-- A firing of the task's one-shot, up to its dispatch. It is the one-shot due at the task's
`n`-th activation and the clock stands at that activation; the firing keeps the clock's invariant,
dispatches to `c` and leaves the task dispatched `n + 1` times. -/
theorem Fired.fire (h : Fired t c s n t' g' k) (hadv : t.schedule.Advances) (hk : k.Inv)
    {target : Time} {f : Firing} {k₁ : Clock} (ht : k.takeDue target = some (f, k₁))
    (hf : f.cont = t.cont) :
    k₁.now.ns = (t.activation s n).ns ∧ (t.activation s n).ns ≤ target.ns ∧
      (t'.firingEffect g' k₁).2.2.now = k₁.now ∧ (t'.firingEffect g' k₁).2.2.Inv ∧
      t'.firingAnswer g' k₁ = some ((t'.firingEffect g' k₁).1, c) ∧
      Fired t c s (n + 1) (t'.firingEffect g' k₁).1 (t'.firingEffect g' k₁).2.1
        (t'.firingEffect g' k₁).2.2 := by
  have hk₁ := Clock.take_inv ht hk
  obtain ⟨hnow, hle⟩ := Clock.take_now ht hk
  have hlive : k₁.isDestroyed t.cont = false :=
    (Clock.isDestroyed_congr (Clock.takeDue_destroyed ht) _).trans h.live
  rcases h.holding with ⟨-, -, -, hnil⟩ | ⟨hz, -, a, ha, -, hkind, hdue⟩
  · -- With nothing pending on its continuation, no one-shot of the task can fire.
    obtain ⟨rest, he, -⟩ := Clock.takeDue_pendingOn_self ht
    rw [hf, hnil] at he
    cases he
  rw [← hf] at ha
  obtain ⟨rfl, hafter⟩ := Clock.takeDue_pendingOn_single ht ha
  rw [hf] at hafter
  simp only [hkind] at hafter
  have hat : k₁.now.ns = (t.activation s n).ns := by
    rw [hnow]
    exact hdue
  -- The one-shot is gone; the task forgets it and arms its next activation, after the one that
  -- fired, since the clock stands at it.
  let t₂ : CronTask := { t' with pending := none, next := Time.zero }
  have hadv₂ : t₂.schedule.Advances := h.schedule ▸ hadv
  obtain ⟨-, hgo', hk', hnow', hl', hheld⟩ := armEffect_fresh (t := t₂) (g := g') hadv₂ hk₁ rfl
    h.onceLimit (h.cont ▸ hlive) (h.cont ▸ hafter)
  have hframe := armEffect_frame t₂ g' k₁
  have hnext : t₂.nextActivation k₁.now = t.activation s (n + 1) :=
    (nextActivation_of_eq h.schedule h.zone _).trans (t.nextActivation_congr hat)
  have hfe : t'.firingEffect g' k₁ = (t₂.armEffect g' k₁).2 := by
    simp [firingEffect, h.alive, t₂]
  rw [hfe]
  rw [hnext] at hheld
  refine ⟨hat, hdue ▸ hle, hnow', hk', ?_, ?_⟩
  · have hctl : (t₂.armEffect g' k₁).2.1.controller = some c := by
      rw [hframe]
      exact h.controller
    unfold firingAnswer
    rw [if_neg (by simp [h.alive]), hfe, hctl]
    rfl
  · refine ⟨by rw [hframe, h.schedule], by rw [hframe, h.zone], by rw [hframe, h.cont],
      by rw [hframe, h.controller], by rw [hframe, h.alive], hgo', h.cont ▸ hl', ?_, h.cont ▸ hheld⟩
    intro j hj
    rcases Nat.lt_succ_iff_lt_or_eq.mp hj with hj | rfl
    · exact h.passed j hj
    · exact hz

end Fired

/-- A task run at `s` has been dispatched `n` times over advances to `targets`: a target reached
each of its first `n` activations, and none reached the next one, if it is a time. -/
def Reached (t : CronTask) (s : Time) (n : Nat) (targets : List Time) : Prop :=
  (∀ i < n, ∃ T ∈ targets, (t.activation s i).ns ≤ T.ns) ∧
    ((t.activation s n).isZero = false → ∀ T ∈ targets, T.ns < (t.activation s n).ns)

theorem reached_nil (t : CronTask) (s : Time) : t.Reached s 0 [] :=
  ⟨fun _ hi => absurd hi (Nat.not_lt_zero _), fun _ _ hT => absurd hT List.not_mem_nil⟩

/-- An advance to `target` that dispatches `m` more times, at activations the target reached, and
stops short of the next one, keeps the count. -/
theorem Reached.advance {s : Time} {n m : Nat} {prev : List Time} {target : Time}
    (hadv : t.schedule.Advances) (h : t.Reached s n prev)
    (hpass : ∀ j < n + m, (t.activation s j).isZero = false)
    (hle : ∀ i < m, (t.activation s (n + i)).ns ≤ target.ns)
    (hlt : (t.activation s (n + m)).isZero = false → target.ns < (t.activation s (n + m)).ns) :
    t.Reached s (n + m) (prev ++ [target]) := by
  obtain ⟨hdone, hnext⟩ := h
  constructor
  · intro i hi
    by_cases hin : i < n
    · obtain ⟨T, hT, hle'⟩ := hdone i hin
      exact ⟨T, by simp [hT], hle'⟩
    · obtain ⟨j, rfl⟩ : ∃ j, i = n + j := ⟨i - n, by omega⟩
      exact ⟨target, by simp, hle j (by omega)⟩
  · intro hz T hT
    rcases List.mem_append.mp hT with hT | hT
    · -- An earlier target stopped short of the `n`-th activation, so of every later one too.
      have hzn : (t.activation s n).isZero = false := by
        rcases Nat.eq_zero_or_pos m with rfl | hm
        · exact hz
        · exact hpass n (by omega)
      have hmono := activation_mono hadv (Nat.le_add_right n m) fun l hl => by
        rcases Nat.lt_or_eq_of_le hl with hl | rfl
        · exact hpass l hl
        · exact hz
      have hlt' := hnext hzn T hT
      omega
    · rw [List.mem_singleton.mp hT]
      exact hlt hz

end CronTask

namespace Scenario

/-- What the rest of a scenario may do around the provider in slot `p`, whatever its kind: calls
on the clock that leave the provider's continuation alone, and anything else that leaves the slot
as it is. -/
structure Beside (p : Nat) (w w' : World) : Prop where
  slot : w'.providers[p]? = w.providers[p]?
  calls : ∃ log, Clock.port.Calls w.clock log w'.clock
  aside : ∀ v, w.providers[p]? = some v → Clock.Aside v.task.cont w.clock w'.clock

theorem Beside.refl (p : Nat) (w : World) : Beside p w w :=
  ⟨rfl, ⟨[], .nil _⟩, fun _ _ => Clock.Aside.refl _ _⟩

/-- The firings of an advance to `target`, as the cron task in slot `p` sees them, with the clock's
time at each dispatch to the task's controller, which answers yes. The clock takes the next firing
due. One of another continuation runs a handler that does what the rest of the scenario may do.
One of the task's continuation is dropped if that is destroyed; otherwise the task's firing re-arms
and runs up to its dispatch, and dispatches if the task has a controller, the receiver doing what
the rest of the scenario may do. When nothing is due the advance ends. -/
inductive CronFirings (p : Nat) (target : Time) : World → List Time → World → Prop
  | finish {w : World} : w.clock.takeDue target = none →
      CronFirings p target w [] { w with clock := w.clock.finishAdvance target }
  | other {w w₁ w₂ : World} {f : Firing} {k : Clock} {ds : List Time} :
      w.clock.takeDue target = some (f, k) →
      (∀ v, w.providers[p]? = some v → f.cont ≠ v.task.cont) →
      Beside p { w with clock := k } w₁ → CronFirings p target w₁ ds w₂ →
      CronFirings p target w ds w₂
  | dropped {w w₁ : World} {f : Firing} {k : Clock} {ds : List Time} :
      w.clock.takeDue target = some (f, k) → k.isDestroyed f.cont = true →
      CronFirings p target { w with clock := k } ds w₁ → CronFirings p target w ds w₁
  | quiet {w W w₁ : World} {f : Firing} {k : Clock} {ds : List Time} :
      w.clock.takeDue target = some (f, k) → k.isDestroyed f.cont = false →
      (∃ t g, w.providers[p]? = some ⟨.cron t, g⟩ ∧ f.cont = t.cont) →
      (cronFiringPrefix p).run { w with clock := k } = .ok none W →
      CronFirings p target W ds w₁ → CronFirings p target w ds w₁
  | dispatch {w W w₁ w₂ : World} {f : Firing} {k : Clock} {t' : CronTask} {c : ControllerRef}
      {ds : List Time} :
      w.clock.takeDue target = some (f, k) → k.isDestroyed f.cont = false →
      (∃ t g, w.providers[p]? = some ⟨.cron t, g⟩ ∧ f.cont = t.cont) →
      (cronFiringPrefix p).run { w with clock := k } = .ok (some (t', c)) W →
      Beside p W w₁ → CronFirings p target w₁ ds w₂ →
      CronFirings p target w (W.clock.now :: ds) w₂

/-- The top-level calls of a scenario once the cron task in slot `p` runs, with the targets of its
advances and the clock's time at each of the task's dispatches: what the rest of the scenario may
do, and advances to a target. -/
inductive CronSession (p : Nat) : World → List Time → List Time → World → Prop
  | nil (w : World) : CronSession p w [] [] w
  | around {w w₁ w₂ : World} {targets ds : List Time} :
      Beside p w w₁ → CronSession p w₁ targets ds w₂ → CronSession p w targets ds w₂
  | advance {w w₁ w₂ : World} {k : Clock} {target : Time} {targets ds ds' : List Time} :
      w.clock.beginAdvance = some k → CronFirings p target { w with clock := k } ds w₁ →
      CronSession p w₁ targets ds' w₂ → CronSession p w (target :: targets) (ds ++ ds') w₂

/-- The cron task in slot `p` is the task `t`, run with controller `c` at `s` and dispatched `n`
times, and the clock keeps its invariant. -/
def OnCron (p : Nat) (t : CronTask) (c : ControllerRef) (s : Time) (n : Nat) (w : World) : Prop :=
  w.clock.Inv ∧ ∃ t' g', w.providers[p]? = some ⟨.cron t', g'⟩ ∧ t.Fired c s n t' g' w.clock

section OnCron

variable {p : Nat} {t : CronTask} {c : ControllerRef} {s : Time}

theorem OnCron.around {n : Nat} {w w' : World} (h : OnCron p t c s n w) (ha : Beside p w w') :
    OnCron p t c s n w' := by
  obtain ⟨hk, t', g', hp, hf⟩ := h
  obtain ⟨log, hcalls⟩ := ha.calls
  exact ⟨Clock.moves_inv hcalls.moves hk, t', g', ha.slot.trans hp,
    hf.aside (hf.cont ▸ ha.aside _ hp)⟩

theorem OnCron.begin {n : Nat} {w : World} {k : Clock} (h : OnCron p t c s n w)
    (hb : w.clock.beginAdvance = some k) : OnCron p t c s n { w with clock := k } := by
  obtain ⟨hk, t', g', hp, hf⟩ := h
  obtain ⟨-, rfl⟩ := Clock.beginAdvance_eq_some.mp hb
  exact ⟨⟨hk.wf, hk.due_ge, hk.period_pos⟩, t', g', hp, hf.aside ⟨rfl, rfl⟩⟩

theorem OnCron.passed {n : Nat} {w : World} (h : OnCron p t c s n w) :
    ∀ j < n, (t.activation s j).isZero = false := by
  obtain ⟨-, t', g', -, hf⟩ := h
  exact hf.passed

/-- A firing of another continuation, or a dropped one, leaves the task as it was. -/
theorem OnCron.take {n : Nat} {w : World} {target : Time} {f : Firing} {k : Clock}
    (h : OnCron p t c s n w) (ht : w.clock.takeDue target = some (f, k))
    (hc : f.cont ≠ t.cont) : OnCron p t c s n { w with clock := k } := by
  obtain ⟨hk, t', g', hp, hf⟩ := h
  exact ⟨Clock.take_inv ht hk, t', g', hp, hf.aside (Clock.takeDue_aside ht (Ne.symm hc))⟩

/-- A firing of the task's one-shot re-arms and runs up to a dispatch to `c`, with the clock at the
task's `n`-th activation, which the target has reached, and leaves the task dispatched `n + 1`
times. -/
theorem OnCron.fire {n : Nat} {w : World} {target : Time} {f : Firing} {k : Clock}
    (h : OnCron p t c s n w) (hadv : t.schedule.Advances)
    (ht : w.clock.takeDue target = some (f, k))
    (hslot : ∃ t g, w.providers[p]? = some ⟨.cron t, g⟩ ∧ f.cont = t.cont) :
    ∃ t' W, (cronFiringPrefix p).run { w with clock := k } = .ok (some (t', c)) W ∧
      OnCron p t c s (n + 1) W ∧ W.clock.now.ns = (t.activation s n).ns ∧
      (t.activation s n).ns ≤ target.ns := by
  obtain ⟨hk, t', g', hp, hfd⟩ := h
  obtain ⟨t₁, g₁, hp₁, hc⟩ := hslot
  obtain ⟨rfl, rfl⟩ : t' = t₁ ∧ g' = g₁ := by simpa [hp] using hp₁
  obtain ⟨W, hW, hWp, hWc⟩ := cronFiringPrefix_effect (w := { w with clock := k }) hp
  obtain ⟨hat, hle, hnow, hinv, hans, hfd'⟩ := hfd.fire hadv hk ht (hc.trans hfd.cont)
  rw [hans] at hW
  refine ⟨_, W, hW, ⟨hWc ▸ hinv, _, _, hWp, hWc ▸ hfd'⟩, ?_, hle⟩
  rw [hWc, hnow]
  exact hat

/-- An advance dispatches the task at its next activations up to the target, in order, with the
clock at each, and stops short of the first activation after the target. -/
theorem CronFirings.onCron (hadv : t.schedule.Advances) {target : Time} {w w' : World}
    {ds : List Time} (hf : CronFirings p target w ds w') (n : Nat) (h : OnCron p t c s n w) :
    ∃ m, OnCron p t c s (n + m) w' ∧ ds.map Time.ns = (t.activations s n m).map Time.ns ∧
      (∀ i < m, (t.activation s (n + i)).ns ≤ target.ns) ∧
      ((t.activation s (n + m)).isZero = false → target.ns < (t.activation s (n + m)).ns) := by
  induction hf generalizing n with
  | finish hn =>
    obtain ⟨hk, t', g', hp, hfd⟩ := h
    obtain ⟨hfd', hlt⟩ := hfd.finish hk hn
    exact ⟨0, ⟨Clock.finish_inv hn hk, t', g', hp, hfd'⟩, rfl, by simp, by simpa using hlt⟩
  | other ht hne ha _ ih =>
    obtain ⟨hk, t', g', hp, hfd⟩ := h
    exact ih n ((OnCron.take ⟨hk, t', g', hp, hfd⟩ ht (hfd.cont ▸ hne _ hp)).around ha)
  | @dropped w w₁ f k ds ht hd _ ih =>
    obtain ⟨hk, t', g', hp, hfd⟩ := h
    have hc : f.cont ≠ t.cont := fun hc => by
      rw [hc, Clock.isDestroyed_congr (Clock.takeDue_destroyed ht), hfd.live] at hd
      cases hd
    exact ih n (OnCron.take ⟨hk, t', g', hp, hfd⟩ ht hc)
  | quiet ht _ hslot hrun _ _ =>
    -- A task that is not destroyed and keeps its controller always dispatches.
    obtain ⟨t', W', hrun', -⟩ := h.fire hadv ht hslot
    rw [hrun'] at hrun
    cases hrun
  | dispatch ht _ hslot hrun ha _ ih =>
    obtain ⟨t', W', hrun', hW, hd₀, hle⟩ := h.fire hadv ht hslot
    rw [hrun'] at hrun
    obtain ⟨-, rfl⟩ : _ ∧ W' = _ := by simpa using hrun
    obtain ⟨m, hm, hds, hle', hlt⟩ := ih (n + 1) (hW.around ha)
    refine ⟨m + 1, by rwa [show n + (m + 1) = n + 1 + m by omega], ?_, ?_, ?_⟩
    · rw [List.map_cons, hds, CronTask.activations_succ, List.map_cons, hd₀]
    · intro i hi
      cases i with
      | zero => exact hle
      | succ i => simpa [show n + (i + 1) = n + 1 + i by omega] using hle' i (by omega)
    · rw [show n + (m + 1) = n + 1 + m by omega]
      exact hlt

/-- Over a session, the task is dispatched at its activations in order, with the clock at each,
and the advances have reached exactly the activations it was dispatched at. -/
theorem CronSession.onCron (hadv : t.schedule.Advances) {w w' : World} {targets ds : List Time}
    (hs : CronSession p w targets ds w') :
    ∀ (n : Nat) (prev : List Time), OnCron p t c s n w → t.Reached s n prev →
      ∃ m, OnCron p t c s (n + m) w' ∧ ds.map Time.ns = (t.activations s n m).map Time.ns ∧
        t.Reached s (n + m) (prev ++ targets) := by
  induction hs with
  | nil w =>
    intro n prev h hr
    exact ⟨0, h, rfl, by simpa using hr⟩
  | around ha _ ih =>
    intro n prev h hr
    exact ih n prev (h.around ha) hr
  | advance hb hf _ ih =>
    intro n prev h hr
    obtain ⟨m₁, h₁, hds₁, hle₁, hlt₁⟩ := hf.onCron hadv n (h.begin hb)
    obtain ⟨m₂, h₂, hds₂, hr₂⟩ := ih (n + m₁) _ h₁ (hr.advance hadv h₁.passed hle₁ hlt₁)
    refine ⟨m₁ + m₂, by rwa [← Nat.add_assoc], ?_, ?_⟩
    · rw [List.map_append, hds₁, hds₂, CronTask.activations_add, List.map_append]
    · simpa [← Nat.add_assoc] using hr₂

end OnCron

/-- **A cron task fires at its activations.** Over any session, a cron task run at `s` with a
controller that answers yes is dispatched at its first `n` activations in order, each exactly when
an advance has reached it, and then holds one one-shot due at its next activation. -/
theorem cron_fires_at_its_activations {p : Nat} {w₀ w : World} {t : CronTask} {g : Gate}
    {c : ControllerRef} {targets ds : List Time}
    (hp : w₀.providers[p]? = some ⟨.cron t, g⟩) (hr : t.ran = false) (hd : t.destroyed = false)
    (hn : t.pending = none) (hpend : w₀.clock.pendingOn t.cont = [])
    (hl : w₀.clock.isDestroyed t.cont = false) (hgo : g.onceLimit = none) (hk : w₀.clock.Inv)
    (hadv : t.schedule.Advances)
    (hs : CronSession p (after (runCron p (some c)) w₀) targets ds w) :
    ∃ n, ds.map Time.ns = (t.activations w₀.clock.now 0 n).map Time.ns ∧
      (∀ i, i < n ↔ (∀ j ≤ i, (t.activation w₀.clock.now j).isZero = false) ∧
        ∃ T ∈ targets, (t.activation w₀.clock.now i).ns ≤ T.ns) ∧
      ∃ t' g', w.providers[p]? = some ⟨.cron t', g'⟩ ∧
        ((t.activation w₀.clock.now n).isZero = true →
          t'.next = Time.zero ∧ w.clock.pendingOn t.cont = []) ∧
        ((t.activation w₀.clock.now n).isZero = false →
          t'.next = t.activation w₀.clock.now n ∧ ∃ a, w.clock.pendingOn t.cont = [a] ∧
            a.kind = .once ∧ a.due.ns = (t.activation w₀.clock.now n).ns) := by
  obtain ⟨h₁, h₂⟩ := runCron_effect hp (some c)
  obtain ⟨hf, hk₁⟩ := CronTask.fired_run c hadv hk hr hd hn hpend hl hgo
  have h₀ : OnCron p t c w₀.clock.now 0 (after (runCron p (some c)) w₀) :=
    ⟨h₂ ▸ hk₁, _, _, h₁, h₂ ▸ hf⟩
  obtain ⟨m, hm, hds, hdone, hnext⟩ := hs.onCron hadv 0 [] h₀ (CronTask.reached_nil t _)
  simp only [Nat.zero_add, List.nil_append] at hm hdone hnext
  obtain ⟨-, t', g', hp', hf'⟩ := hm
  refine ⟨m, hds, fun i => ⟨fun hi => ⟨fun j hj => hf'.passed j (by omega), ?_⟩, ?_⟩,
    t', g', hp', fun hz => ?_, fun hz => ?_⟩
  · exact hdone i hi
  · rintro ⟨hz, T, hT, hle⟩
    -- An activation past the `m`-th comes no earlier than it, and no target reached that one.
    by_contra hmi
    have hlt := hnext (hz m (by omega)) T hT
    have hmono := CronTask.activation_mono hadv (Nat.le_of_not_lt hmi) hz
    omega
  · rcases hf'.holding with ⟨-, -, hnx, hpd⟩ | ⟨hz', -⟩
    · exact ⟨hnx, hpd⟩
    · simp [hz] at hz'
  · rcases hf'.holding with ⟨hz', -⟩ | ⟨-, hnx, a, ha, -, hkind, hdue⟩
    · simp [hz] at hz'
    · exact ⟨hnx, a, ha, hkind, hdue⟩

/-- A task firing every second, run at the epoch and advanced to two and a half seconds: it is
dispatched at one and at two seconds, and holds the one-shot for three. -/
theorem every_second_cron_fires_each_second :
    let t : CronTask :=
      { name := "tick", expr := "@every 1s", schedule := .every 1000000000, zone := Zone.utc,
        cont := 1, logger := {} }
    let w₀ : World := { clock := Clock.start Time.epoch, providers := #[{ task := .cron t }] }
    let targets := [Time.epoch.add 2500000000]
    ∃ ds w, CronSession 0 (after (runCron 0 (some (.stub 0))) w₀) targets ds w ∧
      ∃ n, ds.map Time.ns = (t.activations w₀.clock.now 0 n).map Time.ns ∧
        (∀ i, i < n ↔ (∀ j ≤ i, (t.activation w₀.clock.now j).isZero = false) ∧
          ∃ T ∈ targets, (t.activation w₀.clock.now i).ns ≤ T.ns) ∧
        ∃ t' g', w.providers[0]? = some ⟨.cron t', g'⟩ ∧
          ((t.activation w₀.clock.now n).isZero = true →
            t'.next = Time.zero ∧ w.clock.pendingOn t.cont = []) ∧
          ((t.activation w₀.clock.now n).isZero = false →
            t'.next = t.activation w₀.clock.now n ∧ ∃ a, w.clock.pendingOn t.cont = [a] ∧
              a.kind = .once ∧ a.due.ns = (t.activation w₀.clock.now n).ns) := by
  intro t w₀ targets
  -- With the values in place the session's worlds are closed terms, which evaluate quickly.
  dsimp only [t, w₀, targets]
  exact Exists₂.imp (fun ds w hs => ⟨hs, cron_fires_at_its_activations rfl rfl rfl rfl rfl rfl rfl
    (Clock.inv_start _) (Cron.every_advances (by decide) (by decide)) hs⟩)
    ⟨_, _, .advance rfl
      (.dispatch rfl rfl ⟨_, _, rfl, rfl⟩ rfl (Beside.refl _ _)
        (.dispatch rfl rfl ⟨_, _, rfl, rfl⟩ rfl (Beside.refl _ _) (.finish rfl)))
      (.nil _)⟩

end Scenario

end HostDispatch
