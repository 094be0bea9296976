import HostDispatch.Proofs.Provider.Lifecycle
import HostDispatch.Proofs.Timer.Tokens

/-!
# A timer's life

A timer run with stand-in controllers, destroyed by its owner at any time, fired by the clock and
answered by its controller. `Scenario.TimerLife` is that life as a relation between worlds,
indexed by the trace its owner and its controller see: Runs, the owner's Destroys, and each
dispatch with the answer to it. A dispatch runs the stand-in's script, in which the owner may run
or destroy the timer again; the clock cannot fire there, since it is advancing.

`Scenario.TimerBooks` joins the timer's action invariant `TimerTask.Holds`, the provider books
`Scenario.Ledger` and `Scenario.Shape`, and the count of a one-off timer's firings. Every step of
the relation keeps it (`TimerLife.books`). Main statement: `timer_destroyed_once`.
-/

namespace HostDispatch

namespace TimerTask

/-- What the provider books read of a timer. -/
def view (t : TimerTask) : Scenario.View := ⟨t.destroyed, t.ran, t.controller, t.cont⟩

/-- Running a timer moves its view as a Run does, succeeding exactly when it keeps the
controller. -/
theorem runEffect_view (t : TimerTask) (ctrl : Option Nat) (g : Gate) (k : Clock) :
    (t.runEffect (ctrl.map .stub) g k).1.view =
      t.view.afterRun ctrl (ctrl.isSome && !(t.destroyed || t.ran) &&
        (t.runEffect (ctrl.map .stub) g k).1.controller.isSome) := by
  cases ctrl with
  | none => simp [runEffect, view, Scenario.View.afterRun]
  | some f =>
    by_cases hdr : (t.destroyed || t.ran) = true
    · -- A timer destroyed or already run is left as it is, and the Run fails.
      have hv : (t.runEffect (some (.stub f)) g k).1 = t := by simp [runEffect, hdr]
      simp only [Option.map_some, hv]
      simp only [Bool.or_eq_true] at hdr
      rcases hdr with hd | hr
      · simp [view, Scenario.View.afterRun, hd]
      · simp [view, Scenario.View.afterRun, hr]
    · simp only [Bool.or_eq_true, not_or, Bool.not_eq_true] at hdr
      obtain ⟨hd, hr⟩ := hdr
      by_cases hs : t.startsOnce = true
      · rcases harm : g.arm k t.cont .once t.firstDelay with ⟨r, g', k'⟩
        cases r <;> simp [runEffect, view, Scenario.View.afterRun, hd, hr, hs, harm]
      · rcases harm : g.arm k t.cont .every t.period with ⟨r, g', k'⟩
        cases r <;> simp [runEffect, view, Scenario.View.afterRun, hd, hr, hs, harm]

theorem firingEffect_view (t : TimerTask) (g : Gate) (k : Clock) :
    (t.firingEffect g k).1.view = t.view := by
  unfold firingEffect
  split
  · rfl
  · split
    · split
      · split <;> rfl
      · rfl
    · rfl

theorem destroyEffect_view (t : TimerTask) (k : Clock) :
    (t.destroyEffect k).1.view = if t.destroyed then t.view else t.view.dead := by
  unfold destroyEffect
  split <;> rfl

/-- Running, firing and destroying a timer make and destroy no continuation but its own: running
and firing keep the clock's continuations as they are. -/
theorem runEffect_sameConts (t : TimerTask) (ctrl : Option ControllerRef) (g : Gate) (k : Clock) :
    Clock.SameConts k (t.runEffect ctrl g k).2.2 := by
  unfold runEffect
  split
  · exact ⟨rfl, rfl⟩
  split
  · exact ⟨rfl, rfl⟩
  -- The clock left is the one arming the first action leaves, whether that is refused or not.
  split
  · have h := Gate.arm_sameConts g k t.cont .once t.firstDelay
    split <;> next heq => rw [heq] at h; exact h
  · have h := Gate.arm_sameConts g k t.cont .every t.period
    split <;> next heq => rw [heq] at h; exact h

theorem firingEffect_sameConts (t : TimerTask) (g : Gate) (k : Clock) :
    Clock.SameConts k (t.firingEffect g k).2.2 := by
  unfold firingEffect
  split
  · exact ⟨rfl, rfl⟩
  split
  · split
    · have h := Gate.arm_sameConts g k t.cont .every t.period
      split <;> next heq => rw [heq] at h; exact h
    · exact ⟨rfl, rfl⟩
  · exact ⟨rfl, rfl⟩

theorem runEffect_of_ran {t : TimerTask} (hr : t.ran = true) (ctrl : Option ControllerRef)
    (g : Gate) (k : Clock) : t.runEffect ctrl g k = (t, g, k) := by
  cases ctrl <;> simp [runEffect, hr]

theorem runEffect_mode (t : TimerTask) (ctrl : Option ControllerRef) (g : Gate) (k : Clock) :
    (t.runEffect ctrl g k).1.mode = t.mode := by
  unfold runEffect
  split
  · rfl
  split
  · rfl
  split <;> split <;> rfl

theorem firingEffect_mode (t : TimerTask) (g : Gate) (k : Clock) :
    (t.firingEffect g k).1.mode = t.mode := by
  unfold firingEffect
  split
  · rfl
  split
  · split
    · split <;> rfl
    · rfl
  · rfl

/-- A firing of a live timer leaves it without a one-shot. -/
theorem firingEffect_initialAction (t : TimerTask) (g : Gate) (k : Clock) :
    (t.firingEffect g k).1.initialAction = if t.destroyed then t.initialAction else none := by
  unfold firingEffect
  split
  · simp [*]
  split
  · split
    · split <;> simp [*]
    · simp [*]
  · simp_all

theorem destroyEffect_mode (t : TimerTask) (k : Clock) : (t.destroyEffect k).1.mode = t.mode := by
  unfold destroyEffect
  split <;> rfl

theorem destroyEffect_initialAction (t : TimerTask) (k : Clock) :
    (t.destroyEffect k).1.initialAction = if t.destroyed then t.initialAction else none := by
  unfold destroyEffect
  split <;> simp [*]

/-- An action of a timer due on the clock is one it holds, on its live continuation. -/
theorem Holds.due {t : TimerTask} {k k' : Clock} {target : Time} {f : Firing} (h : t.Holds k)
    (ht : k.takeDue target = some (f, k')) (hf : f.cont = t.cont) :
    (f.action, f.kind) ∈ t.tokens ∧ k'.isDestroyed t.cont = false := by
  obtain ⟨rest, he, -⟩ := Clock.takeDue_pendingOn_self ht
  rw [hf] at he
  have hmem : (f.action, f.kind) ∈ t.tokens := (he ▸ h.pending).subset List.mem_cons_self
  refine ⟨hmem, ?_⟩
  rw [Clock.isDestroyed_congr (Clock.takeDue_destroyed ht)]
  exact (h.alive (List.ne_nil_of_mem hmem)).2.2

/-- A one-off timer holds no repeating action, so an action it holds is its one-shot. -/
theorem Holds.initialAction_isSome {t : TimerTask} {k : Clock} (h : t.Holds k)
    (hm : t.mode = .oneOff) {x : Nat × Kind} (hx : x ∈ t.tokens) : t.initialAction.isSome := by
  obtain ⟨a, kind⟩ := x
  rcases mem_tokens.mp hx with ⟨-, hi⟩ | ⟨-, hq⟩
  · simp [hi]
  · simp [h.oneOff hm] at hq

theorem firingEffect_destroyed (t : TimerTask) (g : Gate) (k : Clock) :
    (t.firingEffect g k).1.destroyed = t.destroyed :=
  congrArg Scenario.View.destroyed (firingEffect_view t g k)

/-- A firing that dispatches is one of a live timer, to the controller of the timer it leaves. -/
theorem firingAnswer_eq_some {t t' : TimerTask} {g : Gate} {k : Clock} {c : ControllerRef}
    (h : t.firingAnswer g k = some (t', c)) :
    t' = (t.firingEffect g k).1 ∧ t'.destroyed = false ∧ t'.controller = some c := by
  unfold firingAnswer at h
  split at h
  · cases h
  · rename_i hd
    obtain ⟨c', hc, hpair⟩ := Option.map_eq_some_iff.mp h
    cases hpair
    exact ⟨rfl, by simpa [firingEffect_destroyed] using hd, hc⟩

end TimerTask

namespace Scenario

theorem quiet_timer (p : Nat) : Quiet (timer p) :=
  Quiet.of_books fun w => by rw [after_timer]; exact ⟨rfl, rfl⟩

theorem quiet_setTimer (p : Nat) (t : TimerTask) : Quiet (setTimer p t) :=
  Quiet.of_books fun w => by
    rw [after_setTimer]
    split <;> exact ⟨rfl, rfl⟩

/-- The part of destroying a live timer before it settles: it marks the timer destroyed, cancels
what it holds and destroys its continuation. -/
def dismantleTimer (p : Nat) (t : TimerTask) (reason : String) : Sim Unit := do
  setTimer p { t with destroyed := true, initialAction := none, periodicAction := none,
                      controller := none }
  if let some a := t.initialAction then
    log t.logger .debug "canceling initial timer action"
    cancelArmed t.logger a true
  if let some a := t.periodicAction then
    log t.logger .debug "canceling periodic timer action"
    cancelArmed t.logger a true
  log t.logger .debug "destroying continuation" [Log.text "reason" reason]
  destroyCont (some t.cont)

/-- Destroying a timer dismantles it and settles, unless it is destroyed already. -/
theorem destroyTimer_eq (p : Nat) (reason : String) :
    destroyTimer p reason = (do
      let t ← timer p
      if t.destroyed then return
      dismantleTimer p t reason
      settle t.controller "timer" reason) := by
  unfold destroyTimer dismantleTimer settle
  refine congrArg (timer p >>= ·) (funext fun t => ?_)
  split
  · rfl
  · -- The steps repeat after each optional cancel; they are the same steps on both sides.
    cases t.initialAction <;> cases t.periodicAction <;> cases t.controller <;>
      simp only [bind_assoc]

theorem dismantleTimer_ok {w : World} {p : Nat} (hp : p < w.providers.size) (t : TimerTask)
    (reason : String) : ∃ W, (dismantleTimer p t reason).run w = .ok () W := by
  have hs : w.providers[p]? = some w.providers[p] := Array.getElem?_eq_getElem hp
  cases hi : t.initialAction <;> cases hq : t.periodicAction <;>
    simp [dismantleTimer, setTimer_run, hs, log_run, cancelArmed_run, destroyCont_run, hi,
      hq]

theorem quiet_dismantleTimer (p : Nat) (t : TimerTask) (reason : String) :
    Quiet (dismantleTimer p t reason) := by
  unfold dismantleTimer
  refine Quiet.bind (quiet_setTimer p _) fun _ => ?_
  cases t.initialAction <;> cases t.periodicAction <;> simp only
  all_goals
    repeat (first
      | exact quiet_destroyCont _
      | refine Quiet.bind (quiet_log _ _ _ _) fun _ => ?_
      | refine Quiet.bind (quiet_cancelArmed _ _ _) fun _ => ?_)

theorem quiet_runTimer (p : Nat) (ctrl : Option ControllerRef) : Quiet (runTimer p ctrl) := by
  unfold runTimer
  refine Quiet.bind (quiet_timer p) fun t => ?_
  repeat' (first
    | exact quiet_pure _
    | refine Quiet.bind (quiet_timer _) fun _ => ?_
    | refine Quiet.bind (quiet_setTimer _ _) fun _ => ?_
    | refine Quiet.bind (quiet_log _ _ _ _) fun _ => ?_
    | refine Quiet.bind (quiet_gatedSchedule _ _ _ _) fun _ => ?_
    | exact quiet_setTimer _ _
    | simp only [pure_bind]
    | split)

/-- A Run succeeds exactly when it has a controller, the timer is neither destroyed nor run, and
the timer keeps the controller, which it does unless arming its first action is refused. -/
theorem runTimer_toBool {w w' : World} {p : Nat} {t : TimerTask} {g : Gate}
    (h : w.providers[p]? = some ⟨.timer t, g⟩) {ctrl : Option ControllerRef}
    {r : Except Fault Unit} (hrun : (runTimer p ctrl).run w = .ok r w') :
    r.toBool = (ctrl.isSome && !(t.destroyed || t.ran) &&
      (t.runEffect ctrl g w.clock).1.controller.isSome) := by
  obtain ⟨hp, hv⟩ := Array.getElem?_eq_some_iff.mp h
  cases ctrl with
  | none =>
    simp [runTimer, run_map, timer_run, h] at hrun
    obtain ⟨rfl, -⟩ := hrun
    rfl
  | some c =>
    by_cases hd : t.destroyed = true
    · simp [runTimer, timer_run, h, hd] at hrun
      obtain ⟨rfl, -⟩ := hrun
      simp [hd, Except.toBool]
    by_cases hr : t.ran = true
    · simp [runTimer, timer_run, h, hd, hr] at hrun
      obtain ⟨rfl, -⟩ := hrun
      simp [hr, Except.toBool]
    by_cases hs : t.startsOnce = true
    · rcases harm : g.arm w.clock t.cont .once t.firstDelay with ⟨a, g', k'⟩
      cases a <;> simp [runTimer, timer_run, setTimer_run, gatedSchedule_run, log_run,
        run_map, hp, hv, hd, hr, hs, harm] at hrun <;>
        simp [← hrun.1, TimerTask.runEffect, Except.toBool, hd, hr, hs, harm]
    · rcases harm : g.arm w.clock t.cont .every t.period with ⟨a, g', k'⟩
      cases a <;> simp [runTimer, timer_run, setTimer_run, gatedSchedule_run, log_run,
        run_map, hp, hv, hd, hr, hs, harm] at hrun <;>
        simp [← hrun.1, TimerTask.runEffect, Except.toBool, hd, hr, hs, harm]

theorem quiet_firingPrefix (p : Nat) : Quiet (firingPrefix p) := by
  unfold firingPrefix
  refine Quiet.bind (quiet_timer p) fun t => ?_
  -- Counting firings and refused armings touches no series of destroyed providers.
  repeat' (first
    | exact quiet_pure _
    | refine Quiet.bind (quiet_timer _) fun _ => ?_
    | refine Quiet.bind (quiet_setTimer _ _) fun _ => ?_
    | refine Quiet.bind (quiet_log _ _ _ _) fun _ => ?_
    | refine Quiet.bind (quiet_gatedSchedule _ _ _ _) fun _ => ?_
    | refine Quiet.bind (quiet_count (by decide) _) fun _ => ?_
    | exact quiet_setTimer _ _
    | exact quiet_count (by decide) _
    | dsimp only
    | split)

/-- After its dispatch answers, a firing is over on a yes; on a no it logs and destroys the timer
for the consumer gone. -/
theorem after_firingTail {dispatch : ControllerRef → Sim Bool} {c : ControllerRef} {W W₂ : World}
    {b : Bool} (hd : (dispatch c).run W = .ok b W₂) (p : Nat) (t : TimerTask) :
    after (firingTail dispatch p t c) W = if b then W₂ else
      after (destroyTimer p Cause.consumerGone.reason)
        (after (log t.logger .debug "receiver has died, destroying timer") W₂) := by
  cases b <;> simp [firingTail, after_bind, hd, log_run, Cause.reason]

/-- Destroying a timer already destroyed changes nothing. -/
theorem destroyTimer_dead {w : World} {p : Nat} {t : TimerTask} {g : Gate}
    (h : w.providers[p]? = some ⟨.timer t, g⟩) (hd : t.destroyed = true) (reason : String) :
    after (destroyTimer p reason) w = w := by
  simp [destroyTimer_eq, after_bind, timer_run, h, hd]

/-- Destroying a live timer whose controller is a stand-in, or none, on a live continuation the
clock made, destroys the continuation, releases the stand-in and counts the destruction. -/
theorem destroyTimer_live {w : World} {p : Nat} {t : TimerTask} {g : Gate}
    (h : w.providers[p]? = some ⟨.timer t, g⟩) (hd : t.destroyed = false)
    (hc : t.controller = none ∨ ∃ f s, t.controller = some (.stub f) ∧ w.stubs[f]? = some s)
    (hl : w.clock.isDestroyed t.cont = false) (hv : 0 < t.cont ∧ t.cont ≤ w.clock.destroyed.size)
    (reason : String) :
    Destroys "timer" reason t.cont t.controller w (after (destroyTimer p reason) w) := by
  obtain ⟨hp, -⟩ := Array.getElem?_eq_some_iff.mp h
  obtain ⟨W, hW⟩ := dismantleTimer_ok hp t reason
  have hq := quiet_dismantleTimer p t reason w
  rw [after_of_ok hW] at hq
  -- The clock is the one the destroy leaves: the continuation destroyed after the cancels.
  have hclock := (destroyTimer_effect h reason).2
  simp only [TimerTask.destroyEffect, hd, Bool.false_eq_true, if_false] at hclock
  refine Destroys.of_settle hq hc ?_ ((Clock.withdraw_sameConts w.clock t.initialAction).trans
    (Clock.withdraw_sameConts _ t.periodicAction)) hl hv hclock
  simp [destroyTimer_eq, after_bind, timer_run, h, hd, hW]

/-! ## A timer's life -/

/-- A timer just made in slot `p`: live, not run, without a controller or an action, on a live
continuation the clock made, with nothing pending on it. -/
def MadeTimer (p : Nat) (w : World) : Prop :=
  ∃ t g, w.providers[p]? = some ⟨.timer t, g⟩ ∧ t.destroyed = false ∧ t.ran = false ∧
    t.controller = none ∧ t.tokens = [] ∧ w.clock.pendingOn t.cont = [] ∧
    w.clock.isDestroyed t.cont = false ∧ 0 < t.cont ∧ t.cont ≤ w.clock.destroyed.size

/-- The life of the timer in slot `p` from one world to another, with the trace its owner and its
controller see; `top` is false inside the receiver of one of its own dispatches, where the clock
is advancing and fires nothing. The owner runs the timer with a stand-in or with none, and
destroys it. The clock takes one of its actions: it drops the firing if the continuation is
destroyed, fires without a dispatch when the timer keeps no controller, and otherwise dispatches
to the stand-in, whose receiver lives a nested part of the timer's life before the stand-in
answers; a no destroys the timer. Anything else leaves the timer alone. -/
inductive TimerLife (p : Nat) : Bool → World → List LifeEvent → World → Prop
  | nil {top : Bool} {w : World} : TimerLife p top w [] w
  | run {top : Bool} {w w₁ w' : World} {cs : List LifeEvent} (ctrl : Option Nat)
      {r : Except Fault Unit} :
      (∀ f ∈ ctrl, f < w.stubs.size) → (runTimer p (ctrl.map .stub)).run w = .ok r w₁ →
      TimerLife p top w₁ cs w' → TimerLife p top w (.run ctrl r.toBool :: cs) w'
  | destroy {top : Bool} {w w' : World} {cs : List LifeEvent} :
      TimerLife p top (after (destroyTimer p Cause.owner.reason) w) cs w' →
      TimerLife p top w (.destroy :: cs) w'
  | drop {w w' : World} {cs : List LifeEvent} {t : TimerTask} {g : Gate} (target : Time)
      {f : Firing} {k : Clock} :
      w.providers[p]? = some ⟨.timer t, g⟩ → w.clock.takeDue target = some (f, k) →
      f.cont = t.cont → k.isDestroyed f.cont = true →
      TimerLife p true { w with clock := k } cs w' → TimerLife p true w cs w'
  | silent {w W w' : World} {cs : List LifeEvent} {t : TimerTask} {g : Gate} (target : Time)
      {f : Firing} {k : Clock} :
      w.providers[p]? = some ⟨.timer t, g⟩ → w.clock.takeDue target = some (f, k) →
      f.cont = t.cont → k.isDestroyed f.cont = false →
      (firingPrefix p).run { w with clock := k } = .ok none W →
      TimerLife p true W cs w' → TimerLife p true w cs w'
  | fire {w W W₂ w' : World} {cs inner : List LifeEvent} {t t' : TimerTask} {g : Gate}
      (target : Time) {f : Firing} {k : Clock} {fi : Nat} (n : Nat) {b : Bool} :
      w.providers[p]? = some ⟨.timer t, g⟩ → w.clock.takeDue target = some (f, k) →
      f.cont = t.cont → k.isDestroyed f.cont = false →
      (firingPrefix p).run { w with clock := k } = .ok (some (t', .stub fi)) W →
      TimerLife p false (after (stubCall fi) W) inner W₂ →
      (dispatch (n + 1) (.stub fi)).run W = .ok b W₂ →
      TimerLife p true (after (fireTimer (dispatch (n + 1)) p) { w with clock := k }) cs w' →
      TimerLife p true w (.dispatch :: inner ++ .answer b :: cs) w'
  | elsewhere {top : Bool} {w w₁ w' : World} {cs : List LifeEvent} :
      Elsewhere p w w₁ → TimerLife p top w₁ cs w' → TimerLife p top w cs w'

/-- Inside a receiver the timer is neither dispatched to nor answered. -/
theorem TimerLife.inner {p : Nat} {top : Bool} {w w' : World} {cs : List LifeEvent}
    (h : TimerLife p top w cs w') (htop : top = false) : dispatched cs = 0 ∧ replies cs = [] := by
  induction h with
  | nil => exact ⟨rfl, rfl⟩
  | run ctrl _ _ _ ih =>
    obtain ⟨hd, hr⟩ := ih htop
    exact ⟨by simpa [dispatched] using hd, by simpa [replies, LifeEvent.reply] using hr⟩
  | destroy _ ih =>
    obtain ⟨hd, hr⟩ := ih htop
    exact ⟨by simpa [dispatched] using hd, by simpa [replies, LifeEvent.reply] using hr⟩
  | drop => cases htop
  | silent => cases htop
  | fire => cases htop
  | elsewhere _ _ ih => exact ih htop

/-- What the timer `t` keeps true of a world along its life from `w₀`: its invariant on the
clock, its books, the shape of its trace, and a one-off timer's bound: it is dispatched to at most
once, and not while it still holds its one-shot. -/
structure TimerAccount (w₀ : World) (top : Bool) (t : TimerTask) (w : World)
    (cs : List LifeEvent) : Prop where
  holds : t.Holds w.clock
  ledger : Ledger "timer" w₀ t.view w cs
  shape : Shape top cs
  oneOff : t.mode = .oneOff → dispatched cs + (if t.initialAction.isSome then 1 else 0) ≤ 1

/-- The timer in slot `p` keeps its account. -/
def TimerBooks (p : Nat) (w₀ : World) (top : Bool) (w : World) (cs : List LifeEvent) : Prop :=
  ∃ t g, w.providers[p]? = some ⟨.timer t, g⟩ ∧ TimerAccount w₀ top t w cs

section Books

variable {p : Nat} {w₀ w w₁ : World} {top : Bool} {cs : List LifeEvent}

/-- A timer just made starts its books with an empty trace. -/
theorem MadeTimer.books (h : MadeTimer p w₀) : TimerBooks p w₀ true w₀ [] := by
  obtain ⟨t, g, hp, hd, -, hc, hn, hpend, hl, hv⟩ := h
  refine ⟨t, g, hp, TimerTask.holds_of_nil hn hpend (fun h' => absurd (hl.symm.trans h') (by simp)),
    Ledger.start hd hc hl hv, Shape.nil, fun _ => ?_⟩
  simp [(TimerTask.tokens_eq_nil.mp hn).1]

theorem TimerBooks.elsewhere (hb : TimerBooks p w₀ top w cs) (ha : Elsewhere p w w₁) :
    TimerBooks p w₀ top w₁ cs ∧ Tallied w w₁ := by
  obtain ⟨t, g, hp, hacc⟩ := hb
  have hf := ha.frame _ hp
  refine ⟨⟨t, g, ha.slot.trans hp, ?_⟩, hf.stubs.tallied⟩
  exact { hacc with
    holds := hacc.holds.aside ⟨ha.pending _ hp, hf.cont⟩
    ledger := hacc.ledger.frame hf }

/-- A Run keeps the books, and records whether it succeeded. -/
theorem TimerBooks.run (hb : TimerBooks p w₀ top w cs) (ctrl : Option Nat)
    (hctrl : ∀ f ∈ ctrl, f < w.stubs.size) {r : Except Fault Unit}
    (hrun : (runTimer p (ctrl.map .stub)).run w = .ok r w₁) :
    TimerBooks p w₀ top w₁ (cs ++ [.run ctrl r.toBool]) ∧ Tallied w w₁ := by
  obtain ⟨t, g, hp, hacc⟩ := hb
  obtain ⟨hslot, hclock⟩ := runTimer_effect hp (ctrl.map .stub)
  obtain ⟨hs, hm, hv⟩ := quiet_runTimer p (ctrl.map .stub) w
  rw [after_of_ok hrun] at hslot hclock hs hm hv
  have hk : Clock.SameConts w.clock w₁.clock := hclock ▸ t.runEffect_sameConts _ g w.clock
  have hf : Frame t.cont (fun _ => 0) (fun _ => 0) w w₁ := Frame.of_quiet hk ⟨hs, hm, hv⟩
  have hok := runTimer_toBool hp hrun
  rw [Option.isSome_map] at hok
  have hview : (t.runEffect (ctrl.map .stub) g w.clock).1.view = t.view.afterRun ctrl r.toBool := by
    rw [TimerTask.runEffect_view, hok]
  refine ⟨⟨_, _, hslot, ?_, ?_, hacc.shape.step (by simp) rfl, fun hm₁ => ?_⟩,
    (Tally.of_stubs hs).tallied⟩
  · rw [hclock]
    exact hacc.holds.run _ g
  · rw [hview]
    refine hacc.ledger.run ctrl r.toBool (fun h => ?_) hctrl hf
    rw [hok] at h
    simp only [Bool.and_eq_true, Bool.not_or, Bool.not_eq_true'] at h
    simp [TimerTask.view, h.1.1, h.1.2.1, h.1.2.2]
  · -- A Run changes the timer only if it has not run, when nothing was dispatched yet.
    rw [TimerTask.runEffect_mode] at hm₁
    have hone := hacc.oneOff hm₁
    cases hran : t.ran
    · have hd0 := (hacc.ledger.unretained (hacc.ledger.idle hran)).1
      have hd1 : dispatched (cs ++ [.run ctrl r.toBool]) = 0 := by simp [hd0]
      rw [hd1]
      split <;> omega
    · rw [TimerTask.runEffect_of_ran hran]
      simpa using hone

/-- Destroying the timer, by its owner or after a no, for cause `c` and recorded as `e`, keeps the
books: a live timer ends with its cause, and one already destroyed is left as it is. -/
theorem TimerBooks.ending (hb : TimerBooks p w₀ top w cs) {c : Cause} {e : LifeEvent}
    (hev : e.ends = some c) (hret : e.retains = none) (hdis : e ≠ .dispatch)
    (hrep : ∀ b, e.reply = some b → Owed w₀ w cs b) (hun : retained cs = none → e.reply = none)
    {top' : Bool} (hshape : Shape top' (cs ++ [e])) :
    TimerBooks p w₀ top' (after (destroyTimer p c.reason) w) (cs ++ [e]) ∧
      Tallied w (after (destroyTimer p c.reason) w) := by
  obtain ⟨t, g, hp, hacc⟩ := hb
  obtain ⟨hslot, hclock⟩ := destroyTimer_effect hp c.reason
  have hholds : (t.destroyEffect w.clock).1.Holds (after (destroyTimer p c.reason) w).clock :=
    hclock ▸ hacc.holds.destroy
  have hone : (t.destroyEffect w.clock).1.mode = .oneOff →
      dispatched (cs ++ [e]) + (if (t.destroyEffect w.clock).1.initialAction.isSome then 1 else 0)
        ≤ 1 := by
    intro hm
    rw [TimerTask.destroyEffect_mode] at hm
    have hle := hacc.oneOff hm
    have hd : dispatched (cs ++ [e]) = dispatched cs := by simp [hdis]
    rw [hd, TimerTask.destroyEffect_initialAction]
    split
    · exact hle
    · simp only [Option.isSome_none, Bool.false_eq_true, if_false]
      split at hle <;> omega
  cases hd : t.destroyed with
  | false =>
    have hw := destroyTimer_live hp hd (hacc.ledger.controller_settles hd)
      (hacc.ledger.cont.trans hd) hacc.ledger.contValid c.reason
    have hview : (t.destroyEffect w.clock).1.view = t.view.dead := by
      rw [TimerTask.destroyEffect_view, hd]
      rfl
    refine ⟨⟨_, _, hslot, hholds, ?_, hshape, hone⟩, hw.stubs.tallied⟩
    rw [hview]
    exact hacc.ledger.ending_live hd hev hret hdis
      (fun b hb => (hrep b hb).tallied hacc.ledger.stub hw.stubs.tallied) hun hw
  | true =>
    have hw : after (destroyTimer p c.reason) w = w := destroyTimer_dead hp hd c.reason
    have hview : (t.destroyEffect w.clock).1.view = t.view := by
      rw [TimerTask.destroyEffect_view, hd]
      rfl
    have hf : Frame t.cont (fun _ => 0) (fun _ => 0) w (after (destroyTimer p c.reason) w) :=
      Frame.of_quiet (by rw [hw]; exact ⟨rfl, rfl⟩) (by rw [hw]; exact ⟨rfl, rfl, fun _ => rfl⟩)
    refine ⟨⟨_, _, hslot, hholds, ?_, hshape, hone⟩, hf.stubs.tallied⟩
    rw [hview]
    exact hacc.ledger.ending_dead hd hret hdis
      (fun b hb => (hrep b hb).tallied hacc.ledger.stub hf.stubs.tallied) hun hf

theorem TimerBooks.shape (hb : TimerBooks p w₀ top w cs) : Shape top cs := by
  obtain ⟨_, _, _, hacc⟩ := hb
  exact hacc.shape

/-- A firing of one of the timer's actions, up to its dispatch, keeps its account. A one-off timer
fires only while it holds its one-shot, so before any dispatch, and drops it then. -/
theorem TimerAccount.fire {t : TimerTask} {g : Gate} (hp : w.providers[p]? = some ⟨.timer t, g⟩)
    (hacc : TimerAccount w₀ true t w cs) {target : Time} {f : Firing} {k : Clock}
    (ht : w.clock.takeDue target = some (f, k)) (hf : f.cont = t.cont)
    {a : Option (TimerTask × ControllerRef)} {W : World}
    (hrun : (firingPrefix p).run { w with clock := k } = .ok a W) :
    a = t.firingAnswer g k ∧
      W.providers[p]? = some ⟨.timer (t.firingEffect g k).1, (t.firingEffect g k).2.1⟩ ∧
      TimerAccount w₀ true (t.firingEffect g k).1 W cs ∧
      ((t.firingEffect g k).1.mode = .oneOff →
        dispatched cs = 0 ∧ (t.firingEffect g k).1.initialAction = none) ∧
      Tallied w W := by
  obtain ⟨W', hrun', hslot, hclock⟩ := firingPrefix_effect (w := { w with clock := k }) hp
  rw [hrun] at hrun'
  obtain ⟨rfl, rfl⟩ : a = t.firingAnswer g k ∧ W = W' := by
    cases hrun'
    exact ⟨rfl, rfl⟩
  obtain ⟨hs, hm, hv⟩ := quiet_firingPrefix p { w with clock := k }
  rw [after_of_ok hrun] at hs hm hv
  have hs' : W.stubs = w.stubs := hs
  obtain ⟨hmem, -⟩ := hacc.holds.due ht hf
  have hd : t.destroyed = false := (hacc.holds.alive (List.ne_nil_of_mem hmem)).2.1
  have hk : Clock.SameConts w.clock W.clock :=
    hclock ▸ (Clock.takeDue_sameConts ht).trans (t.firingEffect_sameConts g k)
  have hframe : Frame t.cont (fun _ => 0) (fun _ => 0) w W := Frame.of_quiet hk ⟨hs', hm, hv⟩
  have hi : (t.firingEffect g k).1.initialAction = none := by
    rw [TimerTask.firingEffect_initialAction, hd]
    rfl
  have hone : (t.firingEffect g k).1.mode = .oneOff →
      dispatched cs = 0 ∧ (t.firingEffect g k).1.initialAction = none := by
    intro hm₁
    rw [TimerTask.firingEffect_mode] at hm₁
    have hle := hacc.oneOff hm₁
    rw [if_pos (hacc.holds.initialAction_isSome hm₁ hmem)] at hle
    exact ⟨by omega, hi⟩
  refine ⟨rfl, hslot, ⟨?_, ?_, hacc.shape, fun hm₁ => ?_⟩, hone, (Tally.of_stubs hs').tallied⟩
  · rw [hclock]
    exact hacc.holds.fire ht hf g
  · rw [TimerTask.firingEffect_view]
    exact hacc.ledger.frame hframe
  · obtain ⟨h0, hn⟩ := hone hm₁
    simp [h0, hn]

/-- A dispatch to the stand-in of the live timer counts once and opens a receiver's part of its
life. -/
theorem TimerAccount.enter {t : TimerTask} {g : Gate} (hp : w.providers[p]? = some ⟨.timer t, g⟩)
    (hacc : TimerAccount w₀ true t w cs) (hd : t.destroyed = false) {fi : Nat}
    (hc : t.controller = some (.stub fi))
    (hone : t.mode = .oneOff → dispatched cs = 0 ∧ t.initialAction = none) :
    TimerBooks p w₀ false (after (stubCall fi) w) (cs ++ [.dispatch]) ∧
      Tallied w (after (stubCall fi) w) := by
  have hre := hacc.ledger.retained_of_controller hd hc
  have hlt := hacc.ledger.stub fi hre
  have hs : w.stubs[fi]? = some w.stubs[fi] := Array.getElem?_eq_getElem hlt
  obtain ⟨-, hprov, hclock, -, -⟩ := stubCall_run hs
  have hframe : Frame t.cont (fun _ => 0) (fun g => if g = fi then 1 else 0) w
      (after (stubCall fi) w) := frame_stubCall hs
  refine ⟨⟨t, g, hprov ▸ hp, ?_, hacc.ledger.enter hd hc hframe,
    hacc.shape.enter (hacc.ledger.cause_eq_none hd), fun hm => ?_⟩, hframe.stubs.tallied⟩
  · rw [hclock]
    exact hacc.holds
  · obtain ⟨h0, hn⟩ := hone hm
    simp [h0, hn]

/-- The stand-in's answer closes the dispatch: a yes keeps the books, and a no destroys the timer
for the consumer gone, unless its receiver destroyed it already. -/
theorem TimerBooks.answer (hb : TimerBooks p w₀ false w cs) {fi : Nat} (hr : retained cs = some fi)
    {b : Bool} (howed : Owed w₀ w cs b) (l : Log.Logger) :
    TimerBooks p w₀ true (if b then w else after (destroyTimer p Cause.consumerGone.reason)
        (after (log l .debug "receiver has died, destroying timer") w)) (cs ++ [.answer b]) ∧
      Tallied w (if b then w else after (destroyTimer p Cause.consumerGone.reason)
        (after (log l .debug "receiver has died, destroying timer") w)) := by
  obtain ⟨t, g, hp, hacc⟩ := hb
  cases b with
  | true =>
    rw [if_pos rfl]
    refine ⟨⟨t, g, hp, { hacc with
      ledger := hacc.ledger.answerYes hr fun s hs => (howed fi s hr hs).symm
      shape := hacc.shape.leave true
      oneOff := fun hm => ?_ }⟩, Tallied.refl w⟩
    simpa [LifeEvent.reply] using hacc.oneOff hm
  | false =>
    rw [if_neg Bool.false_ne_true]
    have hlog := elsewhere_log p l .debug "receiver has died, destroying timer" [] w
    obtain ⟨hb₁, ht₁⟩ := TimerBooks.elsewhere ⟨t, g, hp, hacc⟩ hlog
    obtain ⟨hb₂, ht₂⟩ := hb₁.ending (e := .answer false) (c := .consumerGone) rfl rfl (by simp)
      (fun b hb => by
        cases hb
        exact howed.tallied hacc.ledger.stub ht₁)
      (fun hn => by rw [hr] at hn; cases hn) (hacc.shape.leave false)
    exact ⟨hb₂, ht₁.trans ht₂⟩

/-- The answer a dispatch returns is the one the stand-in owes: its answer to the dispatch after
all those answered before, whatever its receiver did meanwhile. -/
theorem TimerAccount.owed {t : TimerTask} (hacc : TimerAccount w₀ true t w cs)
    (hd : t.destroyed = false) {fi : Nat} (hc : t.controller = some (.stub fi))
    {inner : List LifeEvent} (hin : replies inner = []) {n : Nat} {b : Bool} {W₂ : World}
    (hdisp : (dispatch (n + 1) (.stub fi)).run w = .ok b W₂) (ht : Tallied w W₂) :
    Owed w₀ W₂ (cs ++ [.dispatch] ++ inner) b := by
  have hre := hacc.ledger.retained_of_controller hd hc
  refine hacc.ledger.owed hacc.shape hre (by simp [retained_append, hre]) ?_ hdisp ht
  rw [replies_append, replies_append, hin]
  simp [LifeEvent.reply]

/-- Every part of the timer's life keeps its books, and the tallies only grow along it. -/
theorem TimerLife.books {w w' : World} {cs : List LifeEvent} (hl : TimerLife p top w cs w')
    {cs₀ : List LifeEvent} (hb : TimerBooks p w₀ top w cs₀) :
    TimerBooks p w₀ top w' (cs₀ ++ cs) ∧ Tallied w w' := by
  induction hl generalizing cs₀ with
  | nil => exact ⟨by simpa using hb, Tallied.refl _⟩
  | run ctrl hctrl hrun _ ih =>
    obtain ⟨hb₁, ht₁⟩ := hb.run ctrl hctrl hrun
    obtain ⟨hb', ht'⟩ := ih hb₁
    exact ⟨by simpa using hb', ht₁.trans ht'⟩
  | destroy _ ih =>
    obtain ⟨hb₁, ht₁⟩ := hb.ending (e := .destroy) (c := .owner) rfl rfl (by simp)
      (fun b hb => by cases hb) (fun _ => rfl) (hb.shape.step (by simp) rfl)
    obtain ⟨hb', ht'⟩ := ih hb₁
    exact ⟨by simpa using hb', ht₁.trans ht'⟩
  | drop _ hp ht hf hdes _ _ =>
    -- The timer's continuation is live while it holds the action due, so no firing is dropped.
    obtain ⟨t₀, g₀, hp₀, hacc⟩ := hb
    obtain ⟨rfl, rfl⟩ : _ ∧ _ := by simpa [hp] using hp₀
    have hlive := (hacc.holds.due ht hf).2
    rw [hf] at hdes
    simp [hdes] at hlive
  | silent _ hp ht hf _ hrun _ ih =>
    obtain ⟨t₀, g₀, hp₀, hacc⟩ := hb
    obtain ⟨rfl, rfl⟩ : _ ∧ _ := by simpa [hp] using hp₀
    obtain ⟨-, hslot, hacc₁, -, ht₁⟩ := hacc.fire hp ht hf hrun
    obtain ⟨hb', ht'⟩ := ih ⟨_, _, hslot, hacc₁⟩
    exact ⟨hb', ht₁.trans ht'⟩
  | @fire _ _ _ _ _ inner _ _ _ _ _ _ fi _ _ hp ht hf _ hrun hinner hdisp _ ihinner ihrest =>
    obtain ⟨t₀, g₀, hp₀, hacc⟩ := hb
    obtain ⟨rfl, rfl⟩ : _ ∧ _ := by simpa [hp] using hp₀
    obtain ⟨ha, hslot, hacc₁, hone, ht₁⟩ := hacc.fire hp ht hf hrun
    obtain ⟨rfl, hd, hc⟩ := TimerTask.firingAnswer_eq_some ha.symm
    obtain ⟨hb₂, ht₂⟩ := hacc₁.enter hslot hd hc hone
    obtain ⟨hb₃, ht₃⟩ := ihinner hb₂
    have hre : retained (cs₀ ++ [.dispatch] ++ inner) = some fi := by
      simp [retained_append, hacc₁.ledger.retained_of_controller hd hc]
    have howed := hacc₁.owed hd hc (hinner.inner rfl).2 hdisp (ht₂.trans ht₃)
    obtain ⟨hb₄, ht₄⟩ := hb₃.answer hre howed _
    rw [fireTimer_eq, after_bind_ok hrun] at ihrest
    dsimp only at ihrest
    rw [after_firingTail hdisp] at ihrest
    obtain ⟨hb', ht'⟩ := ihrest hb₄
    exact ⟨by simpa using hb', ht₁.trans (ht₂.trans (ht₃.trans (ht₄.trans ht')))⟩
  | elsewhere ha _ ih =>
    obtain ⟨hb₁, ht₁⟩ := hb.elsewhere ha
    obtain ⟨hb', ht'⟩ := ih hb₁
    exact ⟨hb', ht₁.trans ht'⟩

/-- A one-off timer is dispatched to at most once, so after a yes from its controller nothing
but its owner destroys it. -/
theorem TimerAccount.not_gone_of_oneOff {t : TimerTask} (hacc : TimerAccount w₀ true t w cs)
    (hm : t.mode = .oneOff) (hy : true ∈ replies cs) : cause cs ≠ some .consumerGone := by
  intro hc
  have hn := reply_false_of_cause hc
  have hle : (replies cs).length ≤ 1 := by
    have h₁ := hacc.oneOff hm
    have h₂ := hacc.shape.pending
    simp only [if_true, Nat.add_zero] at h₂
    omega
  match hrs : replies cs, hle with
  | [], _ => simp [hrs] at hy
  | [x], _ =>
    rw [hrs, List.mem_singleton] at hy hn
    exact Bool.false_ne_true (hn.trans hy.symm)

end Books

/-- **A timer is destroyed exactly once.** Along any life of a timer it is destroyed exactly when
its trace has a cause, its continuation is then destroyed and its stand-in released once, and
nothing is dispatched from the first destroying event on. -/
theorem timer_destroyed_once {p : Nat} {w₀ w : World} {cs : List LifeEvent}
    (h₀ : MadeTimer p w₀) (hl : TimerLife p true w₀ cs w) :
    ∃ t g, w.providers[p]? = some ⟨.timer t, g⟩ ∧
      t.destroyed = (cause cs).isSome ∧
      w.clock.isDestroyed t.cont = t.destroyed ∧
      w.clock.stats.destroyed = w₀.clock.stats.destroyed + (if t.destroyed then 1 else 0) ∧
      (∀ f, w.releasesOf f =
        w₀.releasesOf f + if t.destroyed ∧ retained cs = some f then 1 else 0) ∧
      (∀ c : Cause, w.metric .providersDestroyed ["timer", c.reason] =
        w₀.metric .providersDestroyed ["timer", c.reason] +
          if w₀.metrics.isSome ∧ cause cs = some c then 1 else 0) ∧
      dispatched (fromEnd cs) = 0 ∧
      (∀ f, w.dispatchesOf f =
        w₀.dispatchesOf f + if retained cs = some f then dispatched cs else 0) ∧
      (∀ f s k, retained cs = some f → w.stubs[f]? = some s → 0 < k →
        (∀ j, j + 1 < k → s.answer (w₀.dispatchesOf f + j + 1) = true) →
        s.answer (w₀.dispatchesOf f + k) = false →
        dispatched cs ≤ k ∧ (dispatched cs = k → t.destroyed = true) ∧
          (dispatched cs < k → cause cs ≠ some .consumerGone)) ∧
      (t.mode = .oneOff → true ∈ replies cs → cause cs ≠ some .consumerGone) := by
  obtain ⟨⟨t, g, hp, hacc⟩, -⟩ := hl.books h₀.books
  have hl := hacc.ledger
  refine ⟨t, g, hp, hl.destroyed, hl.cont, hl.conts, hl.releases, hl.series, hacc.shape.afterEnd,
    hl.dispatches, fun f s k hr hs hk hyes hno => ?_, hacc.not_gone_of_oneOff⟩
  obtain ⟨hle, hend⟩ := hl.answered.dispatched_le_of_no hacc.shape hr hs hk hno
  exact ⟨hle, fun heq => hl.destroyed.trans (hend heq),
    hl.answered.not_gone_of_yes hacc.shape hr hs hyes⟩

/-- A periodic timer run at the epoch with a stand-in that answers no, and fired when its period is
up: it dispatches once, and the no destroys it for the consumer gone. -/
theorem periodic_timer_answered_no_is_destroyed_once :
    let w₀ : World :=
      { clock := { now := Time.epoch, destroyed := #[false] },
        providers := #[{ task := .timer { name := "tick", mode := .periodic, period := 1000000,
                                          initial := 0, cont := 1, logger := {} } }],
        stubs := #[{ answers := [false], script := [] }] }
    let w₁ := after (runTimer 0 (some (.stub 0))) w₀
    let due := (w₁.clock.takeDue (Time.epoch.add 1000000)).get!
    let w := after (fireTimer (dispatch 2) 0) { w₁ with clock := due.2 }
    let cs := [LifeEvent.run (some 0) true, .dispatch, .answer false]
    MadeTimer 0 w₀ ∧ TimerLife 0 true w₀ cs w ∧
      ∃ t g, w.providers[0]? = some ⟨.timer t, g⟩ ∧
        t.destroyed = (cause cs).isSome ∧
        w.clock.isDestroyed t.cont = t.destroyed ∧
        w.clock.stats.destroyed = w₀.clock.stats.destroyed + (if t.destroyed then 1 else 0) ∧
        (∀ f, w.releasesOf f =
          w₀.releasesOf f + if t.destroyed ∧ retained cs = some f then 1 else 0) ∧
        (∀ c : Cause, w.metric .providersDestroyed ["timer", c.reason] =
          w₀.metric .providersDestroyed ["timer", c.reason] +
            if w₀.metrics.isSome ∧ cause cs = some c then 1 else 0) ∧
        dispatched (fromEnd cs) = 0 ∧
        (∀ f, w.dispatchesOf f =
          w₀.dispatchesOf f + if retained cs = some f then dispatched cs else 0) ∧
        (∀ f s k, retained cs = some f → w.stubs[f]? = some s → 0 < k →
          (∀ j, j + 1 < k → s.answer (w₀.dispatchesOf f + j + 1) = true) →
          s.answer (w₀.dispatchesOf f + k) = false →
          dispatched cs ≤ k ∧ (dispatched cs = k → t.destroyed = true) ∧
            (dispatched cs < k → cause cs ≠ some .consumerGone)) ∧
        (t.mode = .oneOff → true ∈ replies cs → cause cs ≠ some .consumerGone) := by
  intro w₀ w₁ due w cs
  suffices h : MadeTimer 0 w₀ ∧ TimerLife 0 true w₀ cs w from
    ⟨h.1, h.2, timer_destroyed_once h.1 h.2⟩
  dsimp only [w₀, w₁, due, w, cs]
  refine ⟨⟨_, _, rfl, rfl, rfl, rfl, rfl, rfl, rfl, by decide, by decide⟩,
    .run (some 0) (r := .ok ()) ?_ rfl (.fire (Time.epoch.add 1000000) 1 rfl rfl rfl rfl rfl .nil
      (dispatch_unscripted_run (n := 0) (s := { answers := [false], script := [] }) rfl rfl) .nil)⟩
  decide

end Scenario

end HostDispatch
