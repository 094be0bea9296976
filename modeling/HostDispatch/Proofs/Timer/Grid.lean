import Mathlib.Tactic.Linarith
import Mathlib.Tactic.Ring
import HostDispatch.Proofs.Timer.Tokens

/-!
# When a timer fires

A timer run at time `start` fires on a grid (`TimerTask.fireOffset`). A one-off timer fires once,
its period after it runs. A periodic timer with an initial delay fires first after that delay and
then every period; one without fires first one period after it runs and then every period. A
period below `minPeriod` counts as `minPeriod`.

`TimerTask.Fired` says what the timer's slot, its gate and the clock hold after `n` dispatches: the
timer holds one action, due at its `n`-th grid time, unless it is one-off and has fired; and its
gate has counted the armings made so far. Running the timer, firing it and anything else that
leaves its continuation alone keep this. Over a session of advances (`Scenario.Session`) this gives
`timer_fires_on_its_grid`: the timer is dispatched exactly at its grid times up to the furthest
target the clock has been advanced to.
-/

namespace HostDispatch

/-- An arming through a gate that lets it through, on a live continuation with nothing pending,
arms the clock's next action, which is then the only one pending on the continuation; the clock
keeps its time and its invariant. -/
theorem Gate.arm_fresh {g : Gate} {k : Clock} {cont : Nat} (kind : Kind) (d : Int) (hk : k.Inv)
    (ha : (g.take kind).1 = true) (hl : k.isDestroyed cont = false) (hn : k.pendingOn cont = []) :
    ∃ k', g.arm k cont kind d = (.ok (k.queue.lastId + 1), (g.take kind).2, k') ∧
      k'.pendingOn cont = [k.queue.armed cont kind (kind.clamp d) k.now] ∧ k'.now = k.now ∧
      k'.isDestroyed cont = false ∧ k'.Inv := by
  obtain ⟨id, k', harm, hsch⟩ := Gate.arm_of_admits (g := g) kind d ha hl
  obtain ⟨hpk, rfl⟩ := Clock.schedule_pendingOn_of_nil hsch hn
  obtain ⟨-, -, -, -, hnow, -, hdk⟩ := Clock.schedule_eq_ok hsch
  refine ⟨k', harm, hpk, hnow, (Clock.isDestroyed_congr hdk _).trans hl, ?_⟩
  cases kind with
  | once =>
    simp only [Kind.clamp] at hsch
    exact Clock.call_inv (c := .scheduleOnce (some cont) d)
      (r := .armed (.ok (k.queue.lastId + 1)))
      (by simp [Port.call, Clock.port, Clock.scheduleOnce, hsch, Port.armReply]) hk
  | every =>
    simp only [Kind.clamp] at hsch
    exact Clock.call_inv (c := .scheduleEvery (some cont) d)
      (r := .armed (.ok (k.queue.lastId + 1)))
      (by simp [Port.call, Clock.port, Clock.scheduleEvery, hsch, Port.armReply]) hk

namespace TimerTask

/-- How long after it runs a timer fires for the `i`-th time, counting from 0: after its first
delay and then every clamped period when its first action is a one-shot, and every clamped period
from the first otherwise. -/
def fireOffset (t : TimerTask) (i : Nat) : Int :=
  if t.startsOnce then t.firstDelay + i * max t.period minPeriod
  else (i + 1) * max t.period minPeriod

theorem fireOffset_succ (t : TimerTask) (i : Nat) :
    t.fireOffset (i + 1) = t.fireOffset i + max t.period minPeriod := by
  unfold fireOffset
  split
  · push_cast
    ring
  · push_cast
    ring

/-- The grid is strictly increasing. -/
theorem fireOffset_lt {t : TimerTask} {i j : Nat} (h : i < j) :
    t.fireOffset i < t.fireOffset j := by
  have hP : (0 : Int) < max t.period minPeriod :=
    lt_of_lt_of_le (by unfold minPeriod; omega) (le_max_right _ _)
  have hij : (i : Int) * max t.period minPeriod < j * max t.period minPeriod :=
    mul_lt_mul_of_pos_right (by exact_mod_cast h) hP
  unfold fireOffset
  split <;> linarith

theorem fireOffset_le {t : TimerTask} {i j : Nat} (h : i ≤ j) :
    t.fireOffset i ≤ t.fireOffset j := by
  rcases Nat.eq_or_lt_of_le h with rfl | h
  · exact le_refl _
  · exact le_of_lt (fireOffset_lt h)

/-- The clock times of `m` firings of a timer run at `start`, from its `n`-th on. -/
def grid (t : TimerTask) (start : Int) (n m : Nat) : List Int :=
  (List.range m).map fun i => start + t.fireOffset (n + i)

@[simp] theorem grid_zero (t : TimerTask) (start : Int) (n : Nat) : t.grid start n 0 = [] := rfl

theorem grid_succ (t : TimerTask) (start : Int) (n m : Nat) :
    t.grid start n (m + 1) = (start + t.fireOffset n) :: t.grid start (n + 1) m := by
  rw [grid, List.range_succ_eq_map, List.map_cons, List.map_map]
  congr 1
  refine List.map_congr_left fun i _ => ?_
  simp only [Function.comp, show n + (i + 1) = n + 1 + i by omega]

/-- Firings counted in two runs concatenate. -/
theorem grid_add (t : TimerTask) (start : Int) (n a b : Nat) :
    t.grid start n (a + b) = t.grid start n a ++ t.grid start (n + a) b := by
  simp only [grid, List.range_add, List.map_append, List.map_map]
  congr 1
  refine List.map_congr_left fun i _ => ?_
  simp [Function.comp, Nat.add_assoc]

/-- A timer run at `start` has been dispatched `n` times over advances to `targets`: a target
reached each of its first `n` grid times, and none reached the next one, if it has one. -/
def Reached (t : TimerTask) (start : Int) (n : Nat) (targets : List Time) : Prop :=
  (∀ i < n, ∃ T ∈ targets, start + t.fireOffset i ≤ T.ns) ∧
    ∀ T ∈ targets, (t.mode = .oneOff → n = 0) → T.ns < start + t.fireOffset n

theorem reached_nil (t : TimerTask) (start : Int) : t.Reached start 0 [] :=
  ⟨fun _ hi => absurd hi (Nat.not_lt_zero _), fun _ hT => absurd hT List.not_mem_nil⟩

/-- An advance to `target` that dispatches `m` more times, at grid times the target reached, and
stops short of the next one, keeps the count. -/
theorem Reached.advance {t : TimerTask} {start : Int} {n m : Nat} {prev : List Time}
    {target : Time} (h : t.Reached start n prev)
    (hle : ∀ i < m, start + t.fireOffset (n + i) ≤ target.ns)
    (hlt : (t.mode = .oneOff → n + m = 0) → target.ns < start + t.fireOffset (n + m)) :
    t.Reached start (n + m) (prev ++ [target]) := by
  obtain ⟨hdone, hnext⟩ := h
  constructor
  · intro i hi
    by_cases hin : i < n
    · obtain ⟨T, hT, hle'⟩ := hdone i hin
      exact ⟨T, by simp [hT], hle'⟩
    · obtain ⟨j, rfl⟩ : ∃ j, i = n + j := ⟨i - n, by omega⟩
      exact ⟨target, by simp, hle j (by omega)⟩
  · intro T hT h0
    rcases List.mem_append.mp hT with hT | hT
    · -- An earlier target stopped short of the `n`-th grid time, so of every later one too.
      have hlt' := hnext T hT fun hmo => by have := h0 hmo; omega
      have hmono := fireOffset_le (t := t) (Nat.le_add_right n m)
      omega
    · rw [List.mem_singleton.mp hT]
      exact hlt h0

/-- A periodic timer with no initial delay and a period of zero fires every `minPeriod`. -/
example :
    TimerTask.grid
      { name := "tick", mode := .periodic, period := 0, initial := 0, cont := 1, logger := {} }
      0 0 3 = [1000000, 2000000, 3000000] := by
  decide

/-- What the clock holds for a timer `t'` made as `t`, run at `start` and dispatched `n` times: one
action on its continuation, due at its `n`-th grid time, a one-shot for the first firing of a timer
that starts with one and repeating by the clamped period otherwise; or nothing, once a one-off timer
has fired. -/
def Scheduled (t t' : TimerTask) (k : Clock) (start : Int) (n : Nat) : Prop :=
  (t.mode = .oneOff ∧ n = 1 ∧ t'.tokens = [] ∧ k.pendingOn t.cont = []) ∨
    ((t.mode = .oneOff → n = 0) ∧ ∃ a, k.pendingOn t.cont = [a] ∧ t'.tokens = [a.tag] ∧
      a.due.ns = start + t.fireOffset n ∧
      a.kind = (if t.startsOnce = true ∧ n = 0 then .once else .every) ∧
      (a.kind = .every → a.period = max t.period minPeriod))

/-- The timer `t'` with gate `g'` on clock `k` is the timer `t` with gate `g`, run with controller
`c` at `start` and dispatched `n` times. It keeps its settings and controller and is not destroyed,
its gate lets every arming through and has counted one one-shot if it starts with one and one
repeating action once it arms one, its continuation is live, and the clock holds for it what
`Scheduled` says. -/
structure Fired (t : TimerTask) (g : Gate) (c : ControllerRef) (start : Int) (n : Nat)
    (t' : TimerTask) (g' : Gate) (k : Clock) : Prop where
  cont : t'.cont = t.cont
  mode : t'.mode = t.mode
  period : t'.period = t.period
  controller : t'.controller = some c
  alive : t'.destroyed = false
  onceLimit : g'.onceLimit = none
  everyLimit : g'.everyLimit = none
  onceCalls : g'.onceCalls = g.onceCalls + if t.startsOnce then 1 else 0
  everyCalls : g'.everyCalls =
    g.everyCalls + if t.mode = .periodic ∧ (t.startsOnce = true → 0 < n) then 1 else 0
  live : k.isDestroyed t.cont = false
  scheduled : Scheduled t t' k start n

section Fired

variable {t : TimerTask} {g : Gate} {c : ControllerRef} {start : Int} {n : Nat} {t' : TimerTask}
  {g' : Gate} {k : Clock}

theorem Fired.aside (h : Fired t g c start n t' g' k) {k' : Clock} (ha : Clock.Aside t.cont k k') :
    Fired t g c start n t' g' k' :=
  { h with
    live := ha.destroyed.trans h.live
    scheduled := by
      unfold Scheduled
      rw [ha.pending]
      exact h.scheduled }

/-- A one-off timer fires at most once. -/
theorem Fired.oneOff_le (h : Fired t g c start n t' g' k) (hm : t.mode = .oneOff) : n ≤ 1 := by
  rcases h.scheduled with ⟨-, rfl, -⟩ | ⟨h0, -⟩
  · exact le_refl 1
  · rw [h0 hm]
    exact Nat.zero_le 1

/-- When an advance to `target` finds nothing due, the timer's next firing is after `target`. -/
theorem Fired.finish (h : Fired t g c start n t' g' k) (hk : k.Inv) {target : Time}
    (hn : k.takeDue target = none) :
    Fired t g c start n t' g' (k.finishAdvance target) ∧
      ((t.mode = .oneOff → n = 0) → target.ns < start + t.fireOffset n) := by
  refine ⟨h.aside ⟨rfl, rfl⟩, fun h0 => ?_⟩
  rcases h.scheduled with ⟨hm, rfl, -⟩ | ⟨-, a, ha, -, hdue, -⟩
  · exact absurd (h0 hm) (by decide)
  · have hlt := Queue.lt_due_of_popDue_eq_none hk.wf (Clock.takeDue_eq_none.mp hn)
    rw [← hdue]
    exact hlt a (Clock.mem_pendingOn.mp (ha ▸ List.mem_singleton_self a)).1

/-- Running a fresh timer with a controller, on a live continuation with nothing pending and a gate
that lets every arming through, arms its first action for its first grid time. -/
theorem fired_run {t : TimerTask} {g : Gate} {k : Clock} (c : ControllerRef) (hk : k.Inv)
    (hr : t.ran = false) (hd : t.destroyed = false) (hn : t.tokens = [])
    (hpend : k.pendingOn t.cont = []) (hl : k.isDestroyed t.cont = false)
    (hgo : g.onceLimit = none) (hge : g.everyLimit = none) (hP : 0 ≤ t.period)
    (hI : 0 ≤ t.initial) :
    Fired t g c k.now.ns 0 (t.runEffect (some c) g k).1 (t.runEffect (some c) g k).2.1
        (t.runEffect (some c) g k).2.2 ∧
      (t.runEffect (some c) g k).2.2.Inv := by
  obtain ⟨hi, hq⟩ := tokens_eq_nil.mp hn
  unfold runEffect
  dsimp only
  rw [if_neg (by simp [hd, hr])]
  split
  · -- A one-shot first, due after the first delay, which is never negative.
    rename_i hs
    obtain ⟨k', harm, hpk, -, hl', hk'⟩ := Gate.arm_fresh (g := g) .once t.firstDelay hk
      (by simp [Gate.take, hgo, Gate.admits]) hl hpend
    have hfd : 0 ≤ t.firstDelay := by
      unfold firstDelay
      split <;> assumption
    rw [harm]
    refine ⟨⟨rfl, rfl, rfl, rfl, hd, by simp [Gate.take, hgo], by simp [Gate.take, hge],
      by simp [Gate.take, hs], by simp [Gate.take, hs], hl',
      .inr ⟨fun _ => rfl, _, hpk, by simp [tokens, hq, Action.tag, Queue.armed], ?_, ?_,
        by simp [Queue.armed]⟩⟩, hk'⟩
    · simp [Queue.armed, Time.add, Kind.clamp, fireOffset, hs, hfd]
    · simp [Queue.armed, hs]
  · -- At once the repeating action, due one clamped period on.
    rename_i hs
    have hm : t.mode = .periodic := by
      cases hm : t.mode
      · simp [startsOnce, hm] at hs
      · rfl
    obtain ⟨k', harm, hpk, -, hl', hk'⟩ := Gate.arm_fresh (g := g) .every t.period hk
      (by simp [Gate.take, hge, Gate.admits]) hl hpend
    rw [harm]
    refine ⟨⟨rfl, rfl, rfl, rfl, hd, by simp [Gate.take, hgo], by simp [Gate.take, hge],
      by simp [Gate.take, hs], by simp [Gate.take, hs, hm], hl',
      .inr ⟨fun h => by simp [hm] at h, _, hpk, by simp [tokens, hi, Action.tag, Queue.armed], ?_,
        ?_, by simp [Queue.armed, Kind.clamp]⟩⟩, hk'⟩
    · simp [Queue.armed, Time.add, Kind.clamp, fireOffset, hs]
    · simp [Queue.armed, hs]

/-- A firing of the timer's action, up to its dispatch. It is the action due at the `n`-th grid
time and the clock stands at that time; the firing leaves the timer dispatched `n + 1` times, with
the clock still at that time, and it dispatches to `c`. -/
theorem Fired.fire (h : Fired t g c start n t' g' k) (hk : k.Inv) {target : Time} {f : Firing}
    {k₁ : Clock} (ht : k.takeDue target = some (f, k₁)) (hf : f.cont = t.cont) :
    k₁.now.ns = start + t.fireOffset n ∧ start + t.fireOffset n ≤ target.ns ∧
      (t'.firingEffect g' k₁).2.2.now = k₁.now ∧ (t'.firingEffect g' k₁).2.2.Inv ∧
      t'.firingAnswer g' k₁ = some ((t'.firingEffect g' k₁).1, c) ∧
      Fired t g c start (n + 1) (t'.firingEffect g' k₁).1 (t'.firingEffect g' k₁).2.1
        (t'.firingEffect g' k₁).2.2 := by
  have hk₁ := Clock.take_inv ht hk
  obtain ⟨hnow, hle⟩ := Clock.take_now ht hk
  have hlive : k₁.isDestroyed t.cont = false :=
    (Clock.isDestroyed_congr (Clock.takeDue_destroyed ht) _).trans h.live
  rcases h.scheduled with ⟨-, -, -, hnil⟩ | ⟨hmode, a, ha, htok, hdue, hkind, hper⟩
  · -- With nothing pending on its continuation, no action of the timer can fire.
    obtain ⟨rest, he, -⟩ := Clock.takeDue_pendingOn_self ht
    rw [hf, hnil] at he
    cases he
  rw [← hf] at ha
  obtain ⟨rfl, hafter⟩ := Clock.takeDue_pendingOn_single ht ha
  rw [hf] at hafter
  have hat : k₁.now.ns = start + t.fireOffset n := by
    rw [hnow]
    exact hdue
  refine ⟨hat, hdue ▸ hle, ?_⟩
  by_cases hs0 : t.startsOnce = true ∧ n = 0
  · -- The one-shot fired: this is the first firing of a timer that starts with one.
    obtain ⟨hs, rfl⟩ := hs0
    simp only [hs, and_self, if_true] at hkind
    obtain ⟨hi, hq⟩ := tokens_eq_once.mp (by simpa [Action.tag, hkind] using htok)
    simp only [hkind] at hafter
    by_cases hm : t.mode = .periodic
    · -- A periodic timer arms its repeating action, one clamped period on.
      obtain ⟨k₂, harm, hpk, hnow₂, hl₂, hk₂⟩ := Gate.arm_fresh (g := g') .every t'.period hk₁
        (by simp [Gate.take, h.everyLimit, Gate.admits]) (h.cont ▸ hlive) (h.cont ▸ hafter)
      have hfe := firingEffect_of_arm h.alive hi (h.mode.trans hm) harm
      rw [hfe]
      refine ⟨hnow₂, hk₂, by simp [firingAnswer, h.alive, hfe, h.controller], ?_⟩
      refine ⟨h.cont, h.mode, h.period, h.controller, h.alive, by simp [Gate.take, h.onceLimit],
        by simp [Gate.take, h.everyLimit], by simp [Gate.take, h.onceCalls],
        by simp [Gate.take, h.everyCalls, hs, hm], h.cont ▸ hl₂,
        .inr ⟨fun hmo => by simp [hmo] at hm, _, h.cont ▸ hpk,
          by simp [tokens, Action.tag, Queue.armed], ?_, by simp [Queue.armed],
          by simp [Queue.armed, Kind.clamp, h.period]⟩⟩
      simp only [Queue.armed, Time.add, Kind.clamp, h.period, fireOffset_succ]
      omega
    · -- A one-off timer holds nothing more.
      have hmo : t.mode = .oneOff := by
        cases hmo : t.mode
        · rfl
        · exact absurd hmo hm
      have hfe := firingEffect_of_oneOff (g := g') (k := k₁) h.alive hi (h.mode.trans hmo)
      rw [hfe]
      refine ⟨rfl, hk₁, by simp [firingAnswer, h.alive, hfe, h.controller], ?_⟩
      exact ⟨h.cont, h.mode, h.period, h.controller, h.alive, h.onceLimit, h.everyLimit,
        h.onceCalls, by simp [h.everyCalls, hmo], hlive,
        .inl ⟨hmo, rfl, by simp [tokens, hq], hafter⟩⟩
  · -- The repeating action fired: it is pending again one period on.
    simp only [hs0, if_false] at hkind
    obtain ⟨hi, -⟩ := tokens_eq_every.mp (by simpa [Action.tag, hkind] using htok)
    simp only [hkind] at hafter
    have hm : t.mode ≠ .oneOff := fun hmo => hs0 ⟨by simp [startsOnce, hmo], hmode hmo⟩
    have hfe := firingEffect_of_repeating (g := g') (k := k₁) h.alive hi
    rw [hfe]
    refine ⟨rfl, hk₁, by simp [firingAnswer, h.alive, hfe, h.controller], ?_⟩
    have hcount : (t.mode = .periodic ∧ (t.startsOnce = true → 0 < n + 1)) ↔
        (t.mode = .periodic ∧ (t.startsOnce = true → 0 < n)) :=
      and_congr_right fun _ => ⟨fun _ hs => Nat.pos_of_ne_zero fun hn => hs0 ⟨hs, hn⟩,
        fun _ _ => Nat.succ_pos n⟩
    refine ⟨h.cont, h.mode, h.period, h.controller, h.alive, h.onceLimit, h.everyLimit,
      h.onceCalls, by simp only [h.everyCalls, hcount], hlive,
      .inr ⟨fun hmo => absurd hmo hm, _, hafter, by simpa [Action.tag, hkind] using htok, ?_,
        by simp, fun _ => hper hkind⟩⟩
    simp only [Time.add, hper hkind, fireOffset_succ]
    omega

end Fired

end TimerTask

namespace Scenario

/-- What the rest of a scenario may do around the timer in slot `p`: calls on the clock that leave
the timer's continuation alone, and anything else that leaves the slot as it is. -/
structure Around (p : Nat) (w w' : World) : Prop where
  slot : w'.providers[p]? = w.providers[p]?
  calls : ∃ log, Clock.port.Calls w.clock log w'.clock
  aside : ∀ t g, w.providers[p]? = some ⟨.timer t, g⟩ → Clock.Aside t.cont w.clock w'.clock

theorem Around.refl (p : Nat) (w : World) : Around p w w :=
  ⟨rfl, ⟨[], .nil _⟩, fun _ _ _ => Clock.Aside.refl _ _⟩

/-- The firings of an advance to `target`, as the timer in slot `p` sees them, with the clock's
time at each dispatch to the timer's controller, which answers yes. The clock takes the next firing
due. One of another continuation runs a handler that does what the rest of the scenario may do.
One of the timer's continuation is dropped if that is destroyed; otherwise the timer's firing runs
up to its dispatch, and dispatches if the timer has a controller, the receiver doing what the rest
of the scenario may do. When nothing is due the advance ends. -/
inductive Firings (p : Nat) (target : Time) : World → List Time → World → Prop
  | finish {w : World} : w.clock.takeDue target = none →
      Firings p target w [] { w with clock := w.clock.finishAdvance target }
  | other {w w₁ w₂ : World} {f : Firing} {k : Clock} {ds : List Time} :
      w.clock.takeDue target = some (f, k) →
      (∀ t g, w.providers[p]? = some ⟨.timer t, g⟩ → f.cont ≠ t.cont) →
      Around p { w with clock := k } w₁ → Firings p target w₁ ds w₂ → Firings p target w ds w₂
  | dropped {w w₁ : World} {f : Firing} {k : Clock} {ds : List Time} :
      w.clock.takeDue target = some (f, k) → k.isDestroyed f.cont = true →
      Firings p target { w with clock := k } ds w₁ → Firings p target w ds w₁
  | quiet {w W w₁ : World} {f : Firing} {k : Clock} {ds : List Time} :
      w.clock.takeDue target = some (f, k) → k.isDestroyed f.cont = false →
      (∃ t g, w.providers[p]? = some ⟨.timer t, g⟩ ∧ f.cont = t.cont) →
      (firingPrefix p).run { w with clock := k } = .ok none W →
      Firings p target W ds w₁ → Firings p target w ds w₁
  | dispatch {w W w₁ w₂ : World} {f : Firing} {k : Clock} {t' : TimerTask} {c : ControllerRef}
      {ds : List Time} :
      w.clock.takeDue target = some (f, k) → k.isDestroyed f.cont = false →
      (∃ t g, w.providers[p]? = some ⟨.timer t, g⟩ ∧ f.cont = t.cont) →
      (firingPrefix p).run { w with clock := k } = .ok (some (t', c)) W →
      Around p W w₁ → Firings p target w₁ ds w₂ → Firings p target w (W.clock.now :: ds) w₂

/-- The top-level calls of a scenario once the timer in slot `p` runs, with the targets of its
advances and the clock's time at each of the timer's dispatches: what the rest of the scenario may
do, and advances to a target. -/
inductive Session (p : Nat) : World → List Time → List Time → World → Prop
  | nil (w : World) : Session p w [] [] w
  | around {w w₁ w₂ : World} {targets ds : List Time} :
      Around p w w₁ → Session p w₁ targets ds w₂ → Session p w targets ds w₂
  | advance {w w₁ w₂ : World} {k : Clock} {target : Time} {targets ds ds' : List Time} :
      w.clock.beginAdvance = some k → Firings p target { w with clock := k } ds w₁ →
      Session p w₁ targets ds' w₂ → Session p w (target :: targets) (ds ++ ds') w₂

/-- The timer in slot `p` is the timer `t` with gate `g`, run with controller `c` at `start` and
dispatched `n` times, and the clock keeps its invariant. -/
def OnGrid (p : Nat) (t : TimerTask) (g : Gate) (c : ControllerRef) (start : Int) (n : Nat)
    (w : World) : Prop :=
  w.clock.Inv ∧ ∃ t' g', w.providers[p]? = some ⟨.timer t', g'⟩ ∧ t.Fired g c start n t' g' w.clock

section OnGrid

variable {p : Nat} {t : TimerTask} {g : Gate} {c : ControllerRef} {start : Int}

theorem OnGrid.around {n : Nat} {w w' : World} (h : OnGrid p t g c start n w)
    (ha : Around p w w') : OnGrid p t g c start n w' := by
  obtain ⟨hk, t', g', hp, hf⟩ := h
  obtain ⟨log, hcalls⟩ := ha.calls
  exact ⟨Clock.moves_inv hcalls.moves hk, t', g', ha.slot.trans hp,
    hf.aside (hf.cont ▸ ha.aside t' g' hp)⟩

theorem OnGrid.begin {n : Nat} {w : World} {k : Clock} (h : OnGrid p t g c start n w)
    (hb : w.clock.beginAdvance = some k) : OnGrid p t g c start n { w with clock := k } := by
  obtain ⟨hk, t', g', hp, hf⟩ := h
  obtain ⟨-, rfl⟩ := Clock.beginAdvance_eq_some.mp hb
  exact ⟨⟨hk.wf, hk.due_ge, hk.period_pos⟩, t', g', hp, hf.aside ⟨rfl, rfl⟩⟩

/-- A firing of another continuation, or a dropped one, leaves the timer as it was. -/
theorem OnGrid.take {n : Nat} {w : World} {target : Time} {f : Firing} {k : Clock}
    (h : OnGrid p t g c start n w) (ht : w.clock.takeDue target = some (f, k))
    (hc : f.cont ≠ t.cont) : OnGrid p t g c start n { w with clock := k } := by
  obtain ⟨hk, t', g', hp, hf⟩ := h
  exact ⟨Clock.take_inv ht hk, t', g', hp, hf.aside (Clock.takeDue_aside ht (Ne.symm hc))⟩

/-- A firing of the timer's action runs up to a dispatch to `c` at the timer's `n`-th grid time,
which the target has reached, and leaves the timer dispatched `n + 1` times. -/
theorem OnGrid.fire {n : Nat} {w : World} {target : Time} {f : Firing} {k : Clock}
    (h : OnGrid p t g c start n w) (ht : w.clock.takeDue target = some (f, k))
    (hslot : ∃ t g, w.providers[p]? = some ⟨.timer t, g⟩ ∧ f.cont = t.cont) :
    ∃ t' W, (firingPrefix p).run { w with clock := k } = .ok (some (t', c)) W ∧
      OnGrid p t g c start (n + 1) W ∧ W.clock.now.ns = start + t.fireOffset n ∧
      start + t.fireOffset n ≤ target.ns := by
  obtain ⟨hk, t', g', hp, hfd⟩ := h
  obtain ⟨t₁, g₁, hp₁, hc⟩ := hslot
  obtain ⟨rfl, rfl⟩ : t' = t₁ ∧ g' = g₁ := by simpa [hp] using hp₁
  obtain ⟨W, hW, hWp, hWc⟩ := firingPrefix_effect (w := { w with clock := k }) hp
  obtain ⟨hat, hle, hnow, hinv, hans, hfd'⟩ := hfd.fire hk ht (hc.trans hfd.cont)
  rw [hans] at hW
  refine ⟨_, W, hW, ⟨hWc ▸ hinv, _, _, hWp, hWc ▸ hfd'⟩, ?_, hle⟩
  rw [hWc, hnow]
  exact hat

/-- An advance dispatches the timer at its next grid times up to the target, in order, and stops
short of the first grid time after the target. -/
theorem Firings.onGrid {target : Time} {w w' : World} {ds : List Time}
    (hf : Firings p target w ds w') (n : Nat) (h : OnGrid p t g c start n w) :
    ∃ m, OnGrid p t g c start (n + m) w' ∧
      ds.map Time.ns = t.grid start n m ∧
      (∀ i < m, start + t.fireOffset (n + i) ≤ target.ns) ∧
      ((t.mode = .oneOff → n + m = 0) → target.ns < start + t.fireOffset (n + m)) := by
  induction hf generalizing n with
  | finish hn =>
    obtain ⟨hk, t', g', hp, hfd⟩ := h
    obtain ⟨hfd', hlt⟩ := hfd.finish hk hn
    exact ⟨0, ⟨Clock.finish_inv hn hk, t', g', hp, hfd'⟩, rfl, by simp, by simpa using hlt⟩
  | other ht hne ha _ ih =>
    obtain ⟨hk, t', g', hp, hfd⟩ := h
    exact ih n ((OnGrid.take ⟨hk, t', g', hp, hfd⟩ ht (hfd.cont ▸ hne t' g' hp)).around ha)
  | @dropped w w₁ f k ds ht hd _ ih =>
    obtain ⟨hk, t', g', hp, hfd⟩ := h
    have hc : f.cont ≠ t.cont := fun hc => by
      rw [hc, Clock.isDestroyed_congr (Clock.takeDue_destroyed ht), hfd.live] at hd
      cases hd
    exact ih n (OnGrid.take ⟨hk, t', g', hp, hfd⟩ ht hc)
  | quiet ht _ hslot hrun _ _ =>
    -- A timer that is not destroyed and has its controller always dispatches.
    obtain ⟨t', W', hrun', -⟩ := h.fire ht hslot
    rw [hrun'] at hrun
    cases hrun
  | dispatch ht _ hslot hrun ha _ ih =>
    obtain ⟨t', W', hrun', hW, hd₀, hle⟩ := h.fire ht hslot
    rw [hrun'] at hrun
    obtain ⟨-, rfl⟩ : _ ∧ W' = _ := by simpa using hrun
    obtain ⟨m, hm, hds, hle', hlt⟩ := ih (n + 1) (hW.around ha)
    refine ⟨m + 1, by rwa [show n + (m + 1) = n + 1 + m by omega], ?_, ?_, ?_⟩
    · rw [List.map_cons, hds, hd₀, TimerTask.grid_succ]
    · intro i hi
      cases i with
      | zero => exact hle
      | succ i => simpa [show n + (i + 1) = n + 1 + i by omega] using hle' i (by omega)
    · intro h0
      rw [show n + (m + 1) = n + 1 + m by omega]
      exact hlt fun hmo => by have := h0 hmo; omega

/-- Over a session, the timer is dispatched at its grid times in order, and the advances have
reached exactly the grid times it was dispatched at. -/
theorem Session.onGrid {w w' : World} {targets ds : List Time} (hs : Session p w targets ds w') :
    ∀ (n : Nat) (prev : List Time), OnGrid p t g c start n w → t.Reached start n prev →
      ∃ m, OnGrid p t g c start (n + m) w' ∧ ds.map Time.ns = t.grid start n m ∧
        t.Reached start (n + m) (prev ++ targets) := by
  induction hs with
  | nil w =>
    intro n prev h hr
    exact ⟨0, h, rfl, by simpa using hr⟩
  | around ha _ ih =>
    intro n prev h hr
    exact ih n prev (h.around ha) hr
  | advance hb hf _ ih =>
    intro n prev h hr
    obtain ⟨m₁, h₁, hds₁, hle₁, hlt₁⟩ := hf.onGrid n (h.begin hb)
    obtain ⟨m₂, h₂, hds₂, hr₂⟩ := ih (n + m₁) _ h₁ (hr.advance hle₁ hlt₁)
    refine ⟨m₁ + m₂, by rwa [← Nat.add_assoc], ?_, ?_⟩
    · rw [List.map_append, hds₁, hds₂, TimerTask.grid_add]
    · simpa [← Nat.add_assoc] using hr₂

end OnGrid

/-- Over any session, a timer run at `t₀` with a controller that answers yes is dispatched at its
first `n` grid times in order, each exactly when an advance has reached it; its gate counts the
armings it made. -/
theorem timer_fires_on_its_grid {p : Nat} {w₀ w : World} {t : TimerTask} {g : Gate}
    {c : ControllerRef} {targets ds : List Time}
    (hp : w₀.providers[p]? = some ⟨.timer t, g⟩) (hr : t.ran = false) (hd : t.destroyed = false)
    (hn : t.tokens = []) (hpend : w₀.clock.pendingOn t.cont = [])
    (hl : w₀.clock.isDestroyed t.cont = false) (hgo : g.onceLimit = none)
    (hge : g.everyLimit = none) (hP : 0 ≤ t.period) (hI : 0 ≤ t.initial) (hk : w₀.clock.Inv)
    (hs : Session p (after (runTimer p (some c)) w₀) targets ds w) :
    ∃ n, ds.map Time.ns = t.grid w₀.clock.now.ns 0 n ∧
      (∀ i, i < n ↔ (t.mode = .oneOff → i = 0) ∧
        ∃ T ∈ targets, w₀.clock.now.ns + t.fireOffset i ≤ T.ns) ∧
      ∃ t' g', w.providers[p]? = some ⟨.timer t', g'⟩ ∧
        g'.onceCalls = g.onceCalls + (if t.startsOnce then 1 else 0) ∧
        g'.everyCalls = g.everyCalls +
          (if t.mode = .periodic ∧ (t.startsOnce = true → 0 < n) then 1 else 0) := by
  obtain ⟨h₁, h₂⟩ := runTimer_effect hp (some c)
  obtain ⟨hf, hk₁⟩ := TimerTask.fired_run c hk hr hd hn hpend hl hgo hge hP hI
  have h₀ : OnGrid p t g c w₀.clock.now.ns 0 (after (runTimer p (some c)) w₀) :=
    ⟨h₂ ▸ hk₁, _, _, h₁, h₂ ▸ hf⟩
  obtain ⟨m, hm, hds, hdone, hnext⟩ := hs.onGrid 0 [] h₀ (TimerTask.reached_nil t _)
  rw [Nat.zero_add] at hm hdone hnext
  obtain ⟨-, t', g', hp', hf'⟩ := hm
  refine ⟨m, hds, fun i => ⟨fun hi => ⟨fun hmo => ?_, by simpa using hdone i hi⟩, ?_⟩,
    t', g', hp', hf'.onceCalls, hf'.everyCalls⟩
  · -- A one-off timer is dispatched at most once.
    have := hf'.oneOff_le hmo
    omega
  · rintro ⟨h0, T, hT, hle⟩
    by_contra hmi
    have hlt := hnext T (by simpa using hT) fun hmo => by have := h0 hmo; omega
    have hmono := TimerTask.fireOffset_le (t := t) (Nat.le_of_not_lt hmi)
    omega

/-- A periodic timer with period 100 ms and initial delay 10 ms, run at the epoch and advanced to
50 ms and then to 150 ms. -/
theorem delayed_periodic_timer_fires_on_its_grid :
    let t : TimerTask :=
      { name := "tick", mode := .periodic, period := 100000000, initial := 10000000, cont := 1,
        logger := {} }
    let w₀ : World := { clock := Clock.start Time.epoch, providers := #[{ task := .timer t }] }
    let targets := [Time.epoch.add 50000000, Time.epoch.add 150000000]
    ∃ ds w, Session 0 (after (runTimer 0 (some (.stub 0))) w₀) targets ds w ∧
      ∃ n, ds.map Time.ns = t.grid w₀.clock.now.ns 0 n ∧
        (∀ i, i < n ↔ (t.mode = .oneOff → i = 0) ∧
          ∃ T ∈ targets, w₀.clock.now.ns + t.fireOffset i ≤ T.ns) ∧
        ∃ t' g', w.providers[0]? = some ⟨.timer t', g'⟩ ∧
          g'.onceCalls = 0 + (if t.startsOnce then 1 else 0) ∧
          g'.everyCalls = 0 +
            (if t.mode = .periodic ∧ (t.startsOnce = true → 0 < n) then 1 else 0) := by
  intro t w₀ targets
  -- With the values in place the session's worlds are closed terms, which evaluate quickly.
  dsimp only [t, w₀, targets]
  exact Exists₂.imp (fun ds w hs => ⟨hs, timer_fires_on_its_grid rfl rfl rfl rfl rfl rfl rfl rfl
    (by decide) (by decide) (Clock.inv_start _) hs⟩)
    ⟨_, _, .advance rfl (.dispatch rfl rfl ⟨_, _, rfl, rfl⟩ rfl (Around.refl _ _) (.finish rfl))
      (.advance rfl (.dispatch rfl rfl ⟨_, _, rfl, rfl⟩ rfl (Around.refl _ _) (.finish rfl))
        (.nil _))⟩

/-- A one-off timer with period zero, run at the epoch, is due at once; an advance to a target
before the epoch leaves the clock at the epoch, which is the timer's grid time, and dispatches
nothing: its action stays pending until an advance reaches it. -/
theorem oneOff_timer_due_now_waits_for_an_advance :
    let t : TimerTask :=
      { name := "once", mode := .oneOff, period := 0, initial := 0, cont := 1, logger := {} }
    let w₀ : World := { clock := Clock.start Time.epoch, providers := #[{ task := .timer t }] }
    ∃ w, Session 0 (after (runTimer 0 (some (.stub 0))) w₀) [Time.epoch.add (-1)] [] w ∧
      w.clock.now.ns = w₀.clock.now.ns + t.fireOffset 0 ∧
      (w.clock.pendingOn t.cont).length = 1 := by
  intro t w₀
  dsimp only [t, w₀]
  exact ⟨_, .advance rfl (.finish rfl) (.nil _), rfl, rfl⟩

end Scenario

end HostDispatch
