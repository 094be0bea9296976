import HostDispatch.Scenario.Tasks
import HostDispatch.Proofs.Scheduler.Port

/-!
# What a timer's operations leave behind

A scenario step is a computation in `Sim`; what matters of it here is the world it ends in, whether
it returns or is interrupted (`after`). A timer keeps its state in its provider slot and acts on
the clock. Running, firing and destroying it also write log lines, count metrics and release
controllers, and none of these touches a provider or the clock (`Keeps`).

This module works out once what each of the three leaves in the timer's slot and on the clock, as
pure functions of the slot and the clock: `TimerTask.runEffect`, `TimerTask.firingEffect` and
`TimerTask.destroyEffect`. Later proofs cite `runTimer_effect`, `firingPrefix_effect` and
`destroyTimer_effect` and never open the operations. A firing is split at its dispatch
(`fireTimer_eq`): what comes before is one atomic part, then the receiver runs, and a receiver that
answers no is followed by a destroy.
-/

namespace HostDispatch

/-- A call through a gate: whether it is let through, and the gate that has counted it. -/
def Gate.take (g : Gate) : Kind → Bool × Gate
  | .once => (Gate.admits g.onceLimit g.onceCalls, { g with onceCalls := g.onceCalls + 1 })
  | .every => (Gate.admits g.everyLimit g.everyCalls, { g with everyCalls := g.everyCalls + 1 })

/-- The delay a kind of action is armed with: a one-shot is never armed in the past, and a
repeating action never faster than `minPeriod`. -/
def Kind.clamp : Kind → Int → Int
  | .once, d => max d 0
  | .every, d => max d minPeriod

/-- Arming a continuation through a gate: the answer, and the gate and the clock after it. -/
def Gate.arm (g : Gate) (k : Clock) (cont : Nat) (kind : Kind) (d : Int) :
    Except Fault Nat × Gate × Clock :=
  if (g.take kind).1 then
    match k.schedule (some cont) kind (kind.clamp d) with
    | .ok (id, k') => (.ok id, (g.take kind).2, k')
    | .error e => (.error e, (g.take kind).2, k)
  else (.error Scenario.closed, (g.take kind).2, k)

/-- An arming that succeeds is the clock's arming for the clamped delay. -/
theorem Gate.arm_ok {g g' : Gate} {k k' : Clock} {cont : Nat} {kind : Kind} {d : Int} {a : Nat}
    (h : g.arm k cont kind d = (.ok a, g', k')) :
    k.schedule (some cont) kind (kind.clamp d) = .ok (a, k') ∧ g' = (g.take kind).2 := by
  unfold Gate.arm at h
  split at h
  · split at h
    · rename_i hs
      cases h
      exact ⟨hs, rfl⟩
    · cases h
  · cases h

/-- An arming that fails leaves the clock as it was. -/
theorem Gate.arm_error {g g' : Gate} {k k' : Clock} {cont : Nat} {kind : Kind} {d : Int}
    {e : Fault} (h : g.arm k cont kind d = (.error e, g', k')) : k' = k ∧ g' = (g.take kind).2 := by
  unfold Gate.arm at h
  split at h
  · split at h
    · cases h
    · cases h
      exact ⟨rfl, rfl⟩
  · cases h
    exact ⟨rfl, rfl⟩

/-- An arming the gate lets through, on a live continuation, succeeds. -/
theorem Gate.arm_of_admits {g : Gate} {k : Clock} {cont : Nat} (kind : Kind) (d : Int)
    (ha : (g.take kind).1 = true) (hl : k.isDestroyed cont = false) :
    ∃ id k', g.arm k cont kind d = (.ok id, (g.take kind).2, k') ∧
      k.schedule (some cont) kind (kind.clamp d) = .ok (id, k') := by
  cases hs : k.schedule (some cont) kind (kind.clamp d) with
  | ok v =>
    refine ⟨v.1, v.2, ?_, rfl⟩
    simp only [Gate.arm, ha, if_true, hs]
  | error e =>
    rcases Clock.schedule_eq_error hs with h | ⟨c, hc, hd⟩
    · cases h
    · cases hc
      simp [hl] at hd

/-- Cancel a held action, if one is held. -/
def Clock.withdraw (k : Clock) : Option Nat → Clock
  | none => k
  | some a => (k.cancel (some a)).2

namespace TimerTask

/-- What running a timer with a controller (or none) leaves: the timer, its gate and the clock.
A timer that is destroyed or already ran is left alone; otherwise it keeps the controller and arms
its first action, and drops the controller again if that is refused. -/
def runEffect (t : TimerTask) (ctrl : Option ControllerRef) (g : Gate) (k : Clock) :
    TimerTask × Gate × Clock :=
  match ctrl with
  | none => (t, g, k)
  | some c =>
    if t.destroyed || t.ran then (t, g, k)
    else
      let t₁ := { t with ran := true, controller := some c }
      if t.startsOnce then
        match g.arm k t.cont .once t.firstDelay with
        | (.ok a, g', k') => ({ t₁ with initialAction := some a }, g', k')
        | (.error _, g', k') => ({ t₁ with controller := none }, g', k')
      else
        match g.arm k t.cont .every t.period with
        | (.ok a, g', k') => ({ t₁ with periodicAction := some a }, g', k')
        | (.error _, g', k') => ({ t₁ with controller := none }, g', k')

/-- What a firing leaves before it dispatches: the first firing drops the one-shot it held, and a
periodic timer arms its repeating action then. -/
def firingEffect (t : TimerTask) (g : Gate) (k : Clock) : TimerTask × Gate × Clock :=
  if t.destroyed then (t, g, k)
  else if t.initialAction.isSome then
    let t₀ := { t with initialAction := none }
    if t.mode == .periodic then
      match g.arm k t.cont .every t.period with
      | (.ok a, g', k') => ({ t₀ with periodicAction := some a }, g', k')
      | (.error _, g', k') => (t₀, g', k')
    else (t₀, g, k)
  else (t, g, k)

/-- Whom a firing dispatches to: the controller of the timer it leaves, unless the timer was
destroyed. -/
def firingAnswer (t : TimerTask) (g : Gate) (k : Clock) : Option (TimerTask × ControllerRef) :=
  if t.destroyed then none
  else (t.firingEffect g k).1.controller.map fun c => ((t.firingEffect g k).1, c)

section Firing

variable {t : TimerTask} {g : Gate} {k : Clock}

/-- A firing of a repeating action leaves the timer, its gate and the clock as they are. -/
theorem firingEffect_of_repeating (hd : t.destroyed = false) (hi : t.initialAction = none) :
    t.firingEffect g k = (t, g, k) := by
  simp [firingEffect, hd, hi]

/-- The first firing of a one-off timer drops its one-shot. -/
theorem firingEffect_of_oneOff {i : Nat} (hd : t.destroyed = false)
    (hi : t.initialAction = some i) (hm : t.mode = .oneOff) :
    t.firingEffect g k = ({ t with initialAction := none }, g, k) := by
  simp [firingEffect, hd, hi, hm]

/-- The first firing of a periodic timer drops its one-shot and holds the repeating action it
arms. -/
theorem firingEffect_of_arm {i a : Nat} {g' : Gate} {k' : Clock} (hd : t.destroyed = false)
    (hi : t.initialAction = some i) (hm : t.mode = .periodic)
    (harm : g.arm k t.cont .every t.period = (.ok a, g', k')) :
    t.firingEffect g k = ({ t with initialAction := none, periodicAction := some a }, g', k') := by
  simp [firingEffect, hd, hi, hm, harm]

theorem firingEffect_of_arm_error {i : Nat} {e : Fault} {g' : Gate} {k' : Clock}
    (hd : t.destroyed = false) (hi : t.initialAction = some i) (hm : t.mode = .periodic)
    (harm : g.arm k t.cont .every t.period = (.error e, g', k')) :
    t.firingEffect g k = ({ t with initialAction := none }, g', k') := by
  simp [firingEffect, hd, hi, hm, harm]

end Firing

/-- What destroying a timer leaves: the first destroy cancels what it holds, destroys its
continuation and drops its controller; a second changes nothing. -/
def destroyEffect (t : TimerTask) (k : Clock) : TimerTask × Clock :=
  if t.destroyed then (t, k)
  else
    ({ t with destroyed := true, initialAction := none, periodicAction := none, controller := none },
      ((k.withdraw t.initialAction).withdraw t.periodicAction).destroyContinuation (some t.cont))

end TimerTask

namespace Scenario

/-- The world a computation ends in, whether it returned or was interrupted. -/
def after {α : Type} (x : Sim α) (w : World) : World :=
  match x.run w with
  | .ok _ w' => w'
  | .error _ w' => w'

theorem run_bind {α β : Type} (x : Sim α) (f : α → Sim β) (w : World) :
    (x >>= f).run w = match x.run w with
      | .ok a w' => (f a).run w'
      | .error e w' => .error e w' := by
  simp only [EStateM.run, bind, EStateM.bind]
  cases x w <;> rfl

theorem run_map {α β : Type} (f : α → β) (x : Sim α) (w : World) :
    (f <$> x).run w = match x.run w with
      | .ok a w' => .ok (f a) w'
      | .error e w' => .error e w' := by
  simp only [EStateM.run, Functor.map, EStateM.map]
  cases x w <;> rfl

theorem after_of_ok {α : Type} {x : Sim α} {w w' : World} {a : α} (h : x.run w = .ok a w') :
    after x w = w' := by
  simp only [after, h]

theorem after_bind_ok {α β : Type} {x : Sim α} {f : α → Sim β} {w w' : World} {a : α}
    (h : x.run w = .ok a w') : after (x >>= f) w = after (f a) w' := by
  simp only [after, run_bind, h]

theorem after_bind {α β : Type} (x : Sim α) (f : α → Sim β) (w : World) :
    after (x >>= f) w = match x.run w with
      | .ok a w' => after (f a) w'
      | .error _ w' => w' := by
  simp only [after, run_bind]
  cases x.run w <;> rfl

theorem get_run (w : World) : (get : Sim World).run w = .ok w w := rfl

theorem pure_run {α : Type} (a : α) (w : World) : (pure a : Sim α).run w = .ok a w := rfl

theorem set_run (w w' : World) : (set w' : Sim Unit).run w = .ok () w' := rfl

theorem modify_run (g : World → World) (w : World) : (modify g : Sim Unit).run w = .ok () (g w) :=
  rfl

theorem badInput_run {α : Type} (m : String) (w : World) :
    (badInput m : Sim α).run w = .error (.badInput m) w := rfl

theorem slot_run {α : Type} [Inhabited α] {xs : Array α} {n : Nat} (what : String) (w : World)
    (h : n < xs.size) : (slot xs what n).run w = .ok xs[n] w := by
  simp [slot, h]

@[simp] theorem after_map {α β : Type} (f : α → β) (x : Sim α) (w : World) :
    after (f <$> x) w = after x w := by
  simp only [after, EStateM.run, Functor.map, EStateM.map]
  cases x w <;> rfl

@[simp] theorem after_pure {α : Type} (a : α) (w : World) : after (pure a : Sim α) w = w := rfl

/-- A computation that touches neither a provider nor the clock. -/
def Keeps {α : Type} (x : Sim α) : Prop :=
  ∀ w, (after x w).providers = w.providers ∧ (after x w).clock = w.clock

theorem Keeps.bind {α β : Type} {x : Sim α} {f : α → Sim β} (hx : Keeps x)
    (hf : ∀ a, Keeps (f a)) : Keeps (x >>= f) := by
  intro w
  cases h : x.run w with
  | ok a w₁ =>
    rw [after_bind_ok h]
    obtain ⟨hp, hc⟩ := hx w
    rw [after_of_ok h] at hp hc
    exact ⟨(hf a w₁).1.trans hp, (hf a w₁).2.trans hc⟩
  | error e w₁ =>
    have hb : after (x >>= f) w = w₁ := by simp only [after, run_bind, h]
    have hx' : after x w = w₁ := by simp only [after, h]
    rw [hb, ← hx']
    exact hx w

theorem Keeps.of_run_ok {α : Type} {x : Sim α} {w w' : World} {a : α} (hx : Keeps x)
    (h : x.run w = .ok a w') : w'.providers = w.providers ∧ w'.clock = w.clock := by
  have hk := hx w
  rwa [after_of_ok h] at hk

theorem Keeps.of_run_error {α : Type} {x : Sim α} {w w' : World} {e : Interrupt} (hx : Keeps x)
    (h : x.run w = .error e w') : w'.providers = w.providers ∧ w'.clock = w.clock := by
  have hk := hx w
  simp only [after, h] at hk
  exact hk

theorem log_run (l : Log.Logger) (s : Severity) (m : String) (fs : List Log.Field) (w : World) :
    (log l s m fs).run w = .ok () (after (log l s m fs) w) := by
  unfold log
  split <;> rfl

/-- A log line touches nothing but the lines. -/
theorem after_log_lines (l : Log.Logger) (s : Severity) (m : String) (fs : List Log.Field)
    (w : World) : after (log l s m fs) w = { w with lines := (after (log l s m fs) w).lines } := by
  unfold log
  split <;> rfl

theorem keeps_log (l : Log.Logger) (s : Severity) (m : String) (fs : List Log.Field) :
    Keeps (log l s m fs) := by
  intro w
  unfold log
  cases l.line? s m fs <;> exact ⟨rfl, rfl⟩

theorem count_run (f : Metrics.Family) (vs : List String) (w : World) :
    (count f vs).run w = .ok () { w with metrics := w.metrics.map (·.inc f vs) } := rfl

@[simp] theorem after_count (f : Metrics.Family) (vs : List String) (w : World) :
    after (count f vs) w = { w with metrics := w.metrics.map (·.inc f vs) } := rfl

theorem keeps_release (ref : ControllerRef) : Keeps (release ref) := by
  intro w
  cases ref with
  | stub f =>
    by_cases hf : f < w.stubs.size
    · simp [release, hf, after, slot_run]
    · simp [release, hf, after, slot, badInput_run]
  | made k =>
    by_cases hk : k < w.controllers.size
    · have hc : (controller k).run w = .ok w.controllers[k] w := by
        simp only [controller, run_bind, get_run, slot_run _ w hk]
      simp only [release, after_bind, hc, setController, modify_run]
      split
      · exact keeps_log _ _ _ _ _
      · exact ⟨rfl, rfl⟩
    · simp [release, controller, hk, after, slot, badInput_run]

/-! ## Reading and writing the timer's slot -/

theorem provider_run (p : Nat) (w : World) :
    (provider p).run w = match w.providers[p]? with
      | some v => .ok v w
      | none => .error (.badInput ("no provider " ++ toString (p : Int))) w := by
  by_cases hp : p < w.providers.size
  · simp [provider, slot_run _ w hp, hp]
  · simp [provider, slot, hp, badInput_run]

theorem timer_run (p : Nat) (w : World) :
    (timer p).run w = match w.providers[p]? with
      | some ⟨.timer t, _⟩ => .ok t w
      | some ⟨.cron _, _⟩ =>
        .error (.panic "runtime error: invalid memory address or nil pointer dereference") w
      | none => .error (.badInput ("no provider " ++ toString (p : Int))) w := by
  simp only [timer, run_bind, provider_run]
  cases w.providers[p]? with
  | none => rfl
  | some v =>
    obtain ⟨task, g⟩ := v
    cases task <;> rfl

theorem setTimer_run (p : Nat) (t : TimerTask) (w : World) :
    (setTimer p t).run w = match w.providers[p]? with
      | some v => .ok () { w with providers := w.providers.set! p { v with task := .timer t } }
      | none => .error (.badInput ("no provider " ++ toString (p : Int))) w := by
  simp only [setTimer, run_bind, provider_run]
  cases w.providers[p]? <;> rfl

theorem after_timer (p : Nat) (w : World) : after (timer p) w = w := by
  simp only [after, timer_run]
  split <;> rename_i h <;> split at h <;> cases h <;> rfl

theorem after_setTimer (p : Nat) (t : TimerTask) (w : World) :
    after (setTimer p t) w = match w.providers[p]? with
      | some v => { w with providers := w.providers.set! p { v with task := .timer t } }
      | none => w := by
  simp only [after, setTimer_run]
  cases w.providers[p]? <;> rfl

theorem gatedSchedule_run (p cont : Nat) (kind : Kind) (d : Int) (w : World) :
    (gatedSchedule p cont kind d).run w = match w.providers[p]? with
      | some v =>
        let r := v.gate.arm w.clock cont kind d
        .ok r.1 { w with providers := w.providers.set! p { v with gate := r.2.1 }, clock := r.2.2 }
      | none => .error (.badInput ("no provider " ++ toString (p : Int))) w := by
  simp only [gatedSchedule, run_bind, provider_run]
  cases w.providers[p]? with
  | none => rfl
  | some v =>
    -- The gate counts the call first; only a call it lets through reaches the clock.
    cases kind with
    | once =>
      cases ha : Gate.admits v.gate.onceLimit v.gate.onceCalls
      · simp [Gate.arm, Gate.take, ha, setProvider]
      · simp [Gate.arm, Gate.take, Kind.clamp, ha, setProvider,
          Clock.scheduleOnce]
        cases w.clock.schedule (some cont) .once (max d 0) <;> rfl
    | every =>
      cases ha : Gate.admits v.gate.everyLimit v.gate.everyCalls
      · simp [Gate.arm, Gate.take, ha, setProvider]
      · simp [Gate.arm, Gate.take, Kind.clamp, ha, setProvider,
          Clock.scheduleEvery]
        cases w.clock.schedule (some cont) .every (max d minPeriod) <;> rfl

/-! ## The clock -/

theorem destroyCont_run (c : Option Nat) (w : World) :
    (destroyCont c).run w = .ok () { w with clock := w.clock.destroyContinuation c } := rfl

theorem cancelArmed_run (l : Log.Logger) (a : Nat) (withId : Bool) (w : World) :
    (cancelArmed l a withId).run w = .ok () (after (cancelArmed l a withId) w) := by
  cases h : (cancelArmed l a withId).run w with
  | ok u w' => simp only [after, h]
  | error e w' =>
    -- Canceling answers its fault instead of raising it, and a warning is only a log line.
    simp only [cancelArmed, cancelAction, run_bind, get_run, set_run] at h
    cases hc : (w.clock.cancel (some a)).1 <;> simp [hc, Except.map, log_run] at h

@[simp] theorem after_log_providers (l : Log.Logger) (s : Severity) (m : String)
    (fs : List Log.Field) (w : World) : (after (log l s m fs) w).providers = w.providers :=
  (keeps_log l s m fs w).1

@[simp] theorem after_log_clock (l : Log.Logger) (s : Severity) (m : String)
    (fs : List Log.Field) (w : World) : (after (log l s m fs) w).clock = w.clock :=
  (keeps_log l s m fs w).2

theorem after_cancelArmed (l : Log.Logger) (a : Nat) (withId : Bool) (w : World) :
    (after (cancelArmed l a withId) w).providers = w.providers ∧
      (after (cancelArmed l a withId) w).clock = (w.clock.cancel (some a)).2 := by
  simp only [after, cancelArmed, cancelAction, run_bind, get_run, set_run]
  cases (w.clock.cancel (some a)).1 with
  | ok u => exact ⟨rfl, rfl⟩
  | error e => exact keeps_log _ _ _ _ _

/-! ## Running, firing and destroying -/

theorem runTimer_effect {w : World} {p : Nat} {t : TimerTask} {g : Gate}
    (h : w.providers[p]? = some ⟨.timer t, g⟩) (ctrl : Option ControllerRef) :
    (after (runTimer p ctrl) w).providers[p]? =
        some ⟨.timer (t.runEffect ctrl g w.clock).1, (t.runEffect ctrl g w.clock).2.1⟩ ∧
      (after (runTimer p ctrl) w).clock = (t.runEffect ctrl g w.clock).2.2 := by
  obtain ⟨hp, hv⟩ := Array.getElem?_eq_some_iff.mp h
  cases ctrl with
  | none => simp [runTimer, after_timer, h, TimerTask.runEffect]
  | some c =>
    by_cases hd : t.destroyed = true
    · simp [runTimer, after_bind, timer_run, h, TimerTask.runEffect, hd]
    by_cases hr : t.ran = true
    · simp [runTimer, after_bind, timer_run, h, TimerTask.runEffect, hd, hr]
    by_cases hs : t.startsOnce = true
    · rcases harm : g.arm w.clock t.cont .once t.firstDelay with ⟨r, g', k'⟩
      cases r <;> simp [runTimer, after_bind, timer_run, setTimer_run, gatedSchedule_run, log_run,
        hp, hv, TimerTask.runEffect, hd, hr, hs, harm,
        after_setTimer]
    · rcases harm : g.arm w.clock t.cont .every t.period with ⟨r, g', k'⟩
      cases r <;> simp [runTimer, after_bind, timer_run, setTimer_run, gatedSchedule_run, log_run,
        hp, hv, TimerTask.runEffect, hd, hr, hs, harm,
        after_setTimer]

theorem destroyTimer_effect {w : World} {p : Nat} {t : TimerTask} {g : Gate}
    (h : w.providers[p]? = some ⟨.timer t, g⟩) (reason : String) :
    (after (destroyTimer p reason) w).providers[p]? = some ⟨.timer (t.destroyEffect w.clock).1, g⟩ ∧
      (after (destroyTimer p reason) w).clock = (t.destroyEffect w.clock).2 := by
  obtain ⟨hp, hv⟩ := Array.getElem?_eq_some_iff.mp h
  by_cases hd : t.destroyed = true
  · simp [destroyTimer, after_bind, timer_run, h, TimerTask.destroyEffect, hd]
  cases hi : t.initialAction <;> cases hq : t.periodicAction <;> cases hc : t.controller <;>
    simp [destroyTimer, after_bind, timer_run, setTimer_run, log_run, cancelArmed_run,
      destroyCont_run, hp, hv, TimerTask.destroyEffect, hd, hi, hq, hc, Clock.withdraw,
      after_cancelArmed]
  -- What is left is releasing the controller, which may be interrupted but touches neither the
  -- providers nor the clock.
  all_goals
    split <;> rename_i hrel
    · obtain ⟨h₁, h₂⟩ := (keeps_release _).of_run_ok hrel
      simp [h₁, h₂, hp]
    · obtain ⟨h₁, h₂⟩ := (keeps_release _).of_run_error hrel
      simp [h₁, h₂, hp]

/-- The part of a timer's firing before its dispatch: it answers the timer and the controller to
dispatch to, if it dispatches. -/
def firingPrefix (p : Nat) : Sim (Option (TimerTask × ControllerRef)) := do
  let t ← timer p
  if t.destroyed then return none
  if t.initialAction.isSome then
    log t.logger .debug "received initial timer event"
    setTimer p { t with initialAction := none }
    if t.mode == .periodic then
      log t.logger .debug "scheduling periodic event now" [("period", Log.Value.duration t.period)]
      match ← gatedSchedule p t.cont .every t.period with
      | .ok a => setTimer p { (← timer p) with periodicAction := some a }
      | .error e =>
        log t.logger .error "failed to arm periodic event" [Log.err e.message]
        count .armFailures ["timer", t.name]
  let t ← timer p
  let some c := t.controller | return none
  count .timerFirings [t.name, t.mode.name]
  return some (t, c)

/-- The part of a timer's firing from its dispatch on: a receiver that answers no destroys it. -/
def firingTail (dispatch : ControllerRef → Sim Bool) (p : Nat) (t : TimerTask)
    (c : ControllerRef) : Sim Unit := do
  if ← dispatch c then return
  log t.logger .debug "receiver has died, destroying timer"
  destroyTimer p "consumer_gone"

/-- A firing is its part before the dispatch, then the dispatch and what follows it. -/
theorem fireTimer_eq (dispatch : ControllerRef → Sim Bool) (p : Nat) :
    fireTimer dispatch p = (firingPrefix p >>= fun
      | none => pure ()
      | some (t, c) => firingTail dispatch p t c) := by
  unfold fireTimer firingPrefix firingTail
  simp only [bind_assoc]
  congr 1
  funext t
  split
  · simp
  · -- Both sides run the same steps up to reading the timer again; after that the firing
    -- dispatches where the prefix answers the controller.
    by_cases hi : t.initialAction.isSome = true
    · simp only [hi, ↓reduceIte, bind_assoc]
      congr 1
      funext _
      congr 1
      funext _
      by_cases hm : (t.mode == TimerMode.periodic) = true
      · simp only [hm, ↓reduceIte, bind_assoc]
        congr 1
        funext _
        congr 1
        funext r
        cases r <;> simp only [bind_assoc]
        · congr 1
          funext _
          congr 1
          funext _
          congr 1
          funext t'
          cases t'.controller <;> simp only [bind_assoc, pure_bind]
        · congr 1
          funext _
          congr 1
          funext _
          congr 1
          funext t'
          cases t'.controller <;> simp only [bind_assoc, pure_bind]
      · simp only [hm, Bool.false_eq_true, ↓reduceIte, bind_assoc]
        congr 1
        funext t'
        cases t'.controller <;> simp only [bind_assoc, pure_bind]
    · simp only [hi, Bool.false_eq_true, ↓reduceIte, bind_assoc]
      congr 1
      funext t'
      cases t'.controller <;> simp only [bind_assoc, pure_bind]

theorem firingPrefix_effect {w : World} {p : Nat} {t : TimerTask} {g : Gate}
    (h : w.providers[p]? = some ⟨.timer t, g⟩) :
    ∃ W, (firingPrefix p).run w = .ok (t.firingAnswer g w.clock) W ∧
      W.providers[p]? = some ⟨.timer (t.firingEffect g w.clock).1, (t.firingEffect g w.clock).2.1⟩ ∧
      W.clock = (t.firingEffect g w.clock).2.2 := by
  obtain ⟨hp, hv⟩ := Array.getElem?_eq_some_iff.mp h
  by_cases hd : t.destroyed = true
  · simp [firingPrefix, timer_run, h, TimerTask.firingAnswer, TimerTask.firingEffect, hd]
  by_cases hi : t.initialAction.isSome = true
  · by_cases hm : t.mode = .periodic
    · rcases harm : g.arm w.clock t.cont .every t.period with ⟨r, g', k'⟩
      cases r <;> cases hc : t.controller <;>
        simp [firingPrefix, timer_run, setTimer_run, gatedSchedule_run, log_run, count_run, run_map,
          hp, hv,
          TimerTask.firingAnswer, TimerTask.firingEffect, hd, hi, hm, harm, hc]
    · cases hc : t.controller <;>
        simp [firingPrefix, timer_run, setTimer_run, log_run, count_run, run_map, hp, hv,
          TimerTask.firingAnswer, TimerTask.firingEffect, hd, hi, hm, hc]
  · cases hc : t.controller <;>
      simp [firingPrefix, timer_run, count_run, run_map, hp, hv, TimerTask.firingAnswer,
        TimerTask.firingEffect, hd, hi, hc]

end Scenario

end HostDispatch
