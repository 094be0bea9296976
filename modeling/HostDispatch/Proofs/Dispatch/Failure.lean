import HostDispatch.Proofs.Timer.Lifecycle
import HostDispatch.Proofs.Cron.Lifecycle
import HostDispatch.Proofs.Dispatch.Liveness
import HostDispatch.Provider.Fetch

/-!
# A failed execution is undone

An execution makes a controller with two references and runs its provider with it. When the Run
fails, the execution answers the provider's fault wrapped as its own, gives no promise, and drops
both references itself: the controller is left disabled with none, so no later dispatch reaches its
receiver and no later release takes it below zero (`Dead`, `ControllerRun.dead`).

The Run undoes what it began. A timer or a cron task whose Run fails leaves the clock as it was,
holds no action it did not hold before, and keeps its earlier controller or none
(`runProvider_failed`). A stand-in that no Run retained is never dispatched to or released along
the provider's life (`Ledger.untouched`), and a fetch whose Run fails sends nothing and completes
nothing (`Fetch.start_failed`). Main statement: `failed_execution_is_undone`.
-/

namespace HostDispatch

namespace Scenario

/-! ## Computations that leave part of the world alone -/

/-- A computation that leaves what `π` reads of the world as it was, whether it returns or is
interrupted. -/
def Fixes {α β : Type} (π : World → β) (x : Sim α) : Prop := ∀ w, π (after x w) = π w

section Fixes

variable {β : Type} {π : World → β}

theorem Fixes.bind {α γ : Type} {x : Sim α} {f : α → Sim γ} (hx : Fixes π x)
    (hf : ∀ a, Fixes π (f a)) : Fixes π (x >>= f) := by
  intro w
  cases h : x.run w with
  | ok a w₁ =>
    rw [after_bind_ok h, hf a w₁, ← after_of_ok h]
    exact hx w
  | error e w₁ =>
    have hb : after (x >>= f) w = after x w := by simp only [after, run_bind, h]
    rw [hb]
    exact hx w

theorem fixes_pure {α : Type} (a : α) : Fixes π (pure a : Sim α) := fun _ => rfl

theorem Fixes.of_run_ok {α : Type} {x : Sim α} (hx : Fixes π x) {w w' : World} {a : α}
    (h : x.run w = .ok a w') : π w' = π w := by
  rw [← after_of_ok h]
  exact hx w

end Fixes

/-- What an execution sets up around its provider's Run: the controllers and the executions. -/
def World.executionSide (w : World) : Array Controller × Array Execution :=
  (w.controllers, w.executions)

/-- A computation that touches no controller and no execution. -/
abbrev Spares {α : Type} (x : Sim α) : Prop := Fixes World.executionSide x

theorem spares_timer (p : Nat) : Spares (timer p) := fun w => by rw [after_timer]

theorem spares_setTimer (p : Nat) (t : TimerTask) : Spares (setTimer p t) := fun w => by
  rw [after_setTimer]
  split <;> rfl

theorem spares_cronTask (p : Nat) : Spares (cronTask p) := fun w => by rw [after_cronTask]

theorem spares_setCronTask (p : Nat) (t : CronTask) : Spares (setCronTask p t) := fun w => by
  rw [after_setCronTask]
  split <;> rfl

theorem spares_log (l : Log.Logger) (s : Severity) (m : String) (fs : List Log.Field) :
    Spares (log l s m fs) := fun w => by rw [after_log_lines]; rfl

theorem spares_now : Spares (now : Sim Time) := fun _ => rfl

theorem spares_gatedSchedule (p cont : Nat) (kind : Kind) (d : Int) :
    Spares (gatedSchedule p cont kind d) := fun w => by
  simp only [after, gatedSchedule_run]
  cases w.providers[p]? <;> rfl

theorem spares_runTimer (p : Nat) (ctrl : Option ControllerRef) : Spares (runTimer p ctrl) := by
  unfold runTimer
  refine Fixes.bind (spares_timer p) fun t => ?_
  repeat' (first
    | exact fixes_pure _
    | refine Fixes.bind (spares_timer _) fun _ => ?_
    | refine Fixes.bind (spares_setTimer _ _) fun _ => ?_
    | refine Fixes.bind (spares_log _ _ _ _) fun _ => ?_
    | refine Fixes.bind (spares_gatedSchedule _ _ _ _) fun _ => ?_
    | exact spares_setTimer _ _
    | simp only [pure_bind]
    | split)

theorem spares_armCron (p : Nat) : Spares (armCron p) := by
  unfold armCron
  refine Fixes.bind (spares_cronTask p) fun t => ?_
  refine Fixes.bind spares_now fun _ => ?_
  repeat' (first
    | exact fixes_pure _
    | refine Fixes.bind (spares_cronTask _) fun _ => ?_
    | refine Fixes.bind (spares_setCronTask _ _) fun _ => ?_
    | refine Fixes.bind (spares_log _ _ _ _) fun _ => ?_
    | refine Fixes.bind (spares_gatedSchedule _ _ _ _) fun _ => ?_
    | dsimp only
    | split)

theorem spares_runCron (p : Nat) (ctrl : Option ControllerRef) : Spares (runCron p ctrl) := by
  unfold runCron
  refine Fixes.bind (spares_cronTask p) fun t => ?_
  repeat' (first
    | exact fixes_pure _
    | refine Fixes.bind (spares_cronTask _) fun _ => ?_
    | refine Fixes.bind (spares_setCronTask _ _) fun _ => ?_
    | refine Fixes.bind (spares_armCron _) fun _ => ?_
    | dsimp only
    | split)

theorem spares_runProvider (p : Nat) (ctrl : Option ControllerRef) :
    Spares (runProvider p ctrl) := by
  unfold runProvider
  refine Fixes.bind (fun w => ?_) fun v => ?_
  · simp only [after, provider_run]
    cases w.providers[p]? <;> rfl
  split
  · exact spares_runTimer p ctrl
  · exact spares_runCron p ctrl

end Scenario

/-! ## A Run that fails -/

namespace TimerTask

/-- A Run that fails leaves the clock as it was and the actions the timer holds, and the timer
keeps the controller it had, or none once its arming is refused. -/
theorem runEffect_of_failed {t : TimerTask} {ctrl : Option ControllerRef} {g : Gate} {k : Clock}
    (hf : (ctrl.isSome && !(t.destroyed || t.ran) &&
      (t.runEffect ctrl g k).1.controller.isSome) = false) :
    (t.runEffect ctrl g k).2.2 = k ∧
      ((t.runEffect ctrl g k).1.controller = t.controller ∨
        (t.runEffect ctrl g k).1.controller = none) ∧
      (t.runEffect ctrl g k).1.tokens = t.tokens := by
  cases ctrl with
  | none => exact ⟨rfl, .inl rfl, rfl⟩
  | some c =>
    by_cases hdr : (t.destroyed || t.ran) = true
    · simp [runEffect, hdr]
    have hdr' : (t.destroyed || t.ran) = false := by simpa using hdr
    -- Only a refused arming fails here; it leaves the clock and drops the controller.
    by_cases hs : t.startsOnce = true
    · rcases harm : g.arm k t.cont .once t.firstDelay with ⟨r, g', k'⟩
      cases r with
      | ok a => simp [runEffect, hdr', hs, harm] at hf
      | error e =>
        obtain ⟨rfl, -⟩ := Gate.arm_error harm
        simp [runEffect, hdr', hs, harm, tokens]
    · rcases harm : g.arm k t.cont .every t.period with ⟨r, g', k'⟩
      cases r with
      | ok a => simp [runEffect, hdr', hs, harm] at hf
      | error e =>
        obtain ⟨rfl, -⟩ := Gate.arm_error harm
        simp [runEffect, hdr', hs, harm, tokens]

end TimerTask

namespace CronTask

/-- A Run that fails leaves the clock as it was and the activation the task holds, and the task
keeps the controller it had, or none once its arming is refused. -/
theorem runEffect_of_failed {t : CronTask} {ctrl : Option ControllerRef} {g : Gate} {k : Clock}
    (hf : (ctrl.isSome && !(t.destroyed || t.ran) &&
      (t.runEffect ctrl g k).1.controller.isSome) = false) :
    (t.runEffect ctrl g k).2.2 = k ∧
      ((t.runEffect ctrl g k).1.controller = t.controller ∨
        (t.runEffect ctrl g k).1.controller = none) ∧
      (t.runEffect ctrl g k).1.pending = t.pending := by
  by_cases hn : (ctrl.isSome && !(t.destroyed || t.ran)) = false
  · rw [runEffect_of_not_arming hn]
    exact ⟨rfl, .inl rfl, rfl⟩
  obtain ⟨c, rfl⟩ : ∃ c, ctrl = some c := Option.isSome_iff_exists.mp (by simp_all)
  have hdr : (t.destroyed || t.ran) = false := by simpa using hn
  have hd : t.destroyed = false := by simp_all
  have hr : t.ran = false := by simp_all
  -- Only a refused arming fails here: the one arming that succeeds keeps the controller.
  rcases harm : ({ t with ran := true, controller := some c } : CronTask).armEffect g k with
    ⟨r, t', g', k'⟩
  cases r with
  | ok u =>
    have hctl : t'.controller = some c := by
      have := armEffect_frame ({ t with ran := true, controller := some c } : CronTask) g k
      rw [harm] at this
      simp only at this
      rw [this]
    simp [runEffect_of_arm_ok hd hr harm, hctl, hd, hr] at hf
  | error e =>
    rw [runEffect_of_arm_error hd hr harm]
    unfold armEffect at harm
    dsimp only at harm
    split at harm
    · cases harm
    · rcases hg : g.arm k t.cont .once _ with ⟨r', g'', k''⟩
      rw [hg] at harm
      cases r' with
      | ok a => cases harm
      | error e' =>
        obtain ⟨rfl, -⟩ := Gate.arm_error hg
        cases harm
        exact ⟨rfl, .inr rfl, rfl⟩

end CronTask

namespace Scenario

/-- The controller a provider dispatches to. -/
def Task.controller : Task → Option ControllerRef
  | .timer t => t.controller
  | .cron t => t.controller

/-- The actions a provider holds, each with the kind it was armed as. -/
def Task.held : Task → List (Nat × Kind)
  | .timer t => t.tokens
  | .cron t => t.pending.toList.map (·, .once)

/-- A Run of a provider that fails leaves the clock as it was, so that nothing is pending that was
not before; the provider holds the actions it held and keeps the controller it had, or none. -/
theorem runProvider_failed {w w' : World} {p : Nat} {ctrl : Option ControllerRef} {e : Fault}
    (hrun : (runProvider p ctrl).run w = .ok (.error e) w') :
    w'.clock = w.clock ∧ ∃ v v', w.providers[p]? = some v ∧ w'.providers[p]? = some v' ∧
      (v'.task.controller = v.task.controller ∨ v'.task.controller = none) ∧
      v'.task.held = v.task.held := by
  simp only [runProvider, run_bind, provider_run] at hrun
  rcases hv : w.providers[p]? with _ | ⟨task, g⟩
  · simp [hv] at hrun
  rw [hv] at hrun
  cases task with
  | timer t =>
    have hfail := runTimer_toBool hv hrun
    obtain ⟨hslot, hclock⟩ := runTimer_effect hv ctrl
    rw [after_of_ok hrun] at hslot hclock
    obtain ⟨hk, hc, ht⟩ := TimerTask.runEffect_of_failed hfail.symm
    exact ⟨hclock.trans hk, _, _, rfl, hslot, hc, ht⟩
  | cron t =>
    have hfail := runCron_toBool hv hrun
    obtain ⟨hslot, hclock⟩ := runCron_effect hv ctrl
    rw [after_of_ok hrun] at hslot hclock
    obtain ⟨hk, hc, ht⟩ := CronTask.runEffect_of_failed hfail.symm
    exact ⟨hclock.trans hk, _, _, rfl, hslot, hc, by simp [Task.held, ht]⟩

/-! ## A controller that delivers no more -/

/-- A controller that delivers no more: disabled with no reference left, and with no promise in
slot `q` that could close it. -/
structure Dead (k q : Nat) (w : World) : Prop where
  controller : ∃ c, w.controllers[k]? = some c ∧ c.refs = 0 ∧ c.disabled = true
  promise : (w.executions[q]?).bind (·.promise) = none

/-- Closing a slot that holds no promise changes nothing. -/
theorem after_closeExecution_none {q : Nat} {w : World}
    (h : (w.executions[q]?).bind (·.promise) = none) : after (closeExecution q) w = w := by
  by_cases hq : q < w.executions.size
  · have he : w.executions[q].promise = none := by
      simpa [Array.getElem?_eq_getElem hq] using h
    simp only [closeExecution, after_bind, get_run, slot_run _ w hq, he, after_pure]
  · simp [closeExecution, after, slot, hq, badInput_run]

/-- Closing a slot whose promise is closed already changes nothing. -/
theorem closeExecution_idle_run {q : Nat} {w : World} {e : Execution}
    (he : w.executions[q]? = some e) (hp : ∀ pr ∈ e.promise, pr.closed = true) :
    (closeExecution q).run w = .ok () w := by
  obtain ⟨hq, rfl⟩ := Array.getElem?_eq_some_iff.mp he
  cases h : w.executions[q].promise with
  | none => simp only [closeExecution, run_bind, get_run, slot_run _ w hq, h, pure_run]
  | some pr =>
    have hc : pr.closed = true := hp pr h
    simp only [closeExecution, run_bind, get_run, slot_run _ w hq, h, closePromise, hc, if_true,
      pure_run, modify_run]
    congr
    rw [← h]
    exact (dif_pos hq).trans (Array.set_getElem_self hq)

/-- A controller that calls its receiver no more: disabled, with no fewer than no references, and
with its promise in slot `q` closed already or absent, so that closing it does nothing. -/
structure Silent (k q : Nat) (w : World) : Prop where
  controller : ∃ c, w.controllers[k]? = some c ∧ 0 ≤ c.refs ∧ c.disabled = true
  promise : ∀ pr ∈ (w.executions[q]?).bind (·.promise), pr.closed = true

section Silent

variable {k q : Nat} {w : World}

theorem Silent.liveAt_eq (h : Silent k q w) : liveAt k w = false := by
  obtain ⟨c, hk, -, hd⟩ := h.controller
  simp [liveAt, hk, Controller.live, hd]

/-- A release keeps the controller disabled and drops a reference, or none past the last. -/
theorem Silent.release (h : Silent k q w) :
    Silent k q (after (release (.made k)) w) ∧
      ∃ c c', w.controllers[k]? = some c ∧
        (after (release (.made k)) w).controllers[k]? = some c' ∧ c'.refs ≤ c.refs := by
  obtain ⟨c, hk, hr, hd⟩ := h.controller
  obtain ⟨h₁, h₂, -⟩ := after_release_made hk
  obtain ⟨hr', hd', -⟩ := c.release_fst hr
  refine ⟨⟨⟨_, h₁, by omega, by simp [hd', hd]⟩, ?_⟩, c, _, hk, h₁, by omega⟩
  rw [h₂]
  exact h.promise

theorem Silent.closeExecution_eq (h : Silent k q w) : after (closeExecution q) w = w := by
  cases he : w.executions[q]? with
  | none => exact after_closeExecution_none (by simp [he])
  | some e => exact after_of_ok (closeExecution_idle_run he fun pr hp => h.promise pr (by simp [he, hp]))

theorem Silent.count (h : Silent k q w) (f : Metrics.Family) (vs : List String) :
    Silent k q (after (count f vs) w) := by
  rw [after_count]
  exact ⟨h.controller, h.promise⟩

theorem Silent.apart (h : Silent k q w) {w' : World} (ha : Apart k q w w') : Silent k q w' := by
  obtain ⟨c, hk, hr, hd⟩ := h.controller
  have hc := ha.controller
  rw [hk] at hc
  obtain ⟨c', hk', hc'⟩ := Option.map_eq_some_iff.mp hc
  simp only [Prod.mk.injEq] at hc'
  exact ⟨⟨c', hk', hc'.1 ▸ hr, hc'.2.1.trans hd⟩, ha.promise ▸ h.promise⟩

end Silent

open ControllerCall in
/-- A silent controller stays silent over any run of calls: no receiver is called, every liveness
observed is no, and every dispatch counts as gone and answers no. Its promise stays as it was and
its references never grow. -/
theorem ControllerRun.silent {k q : Nat} {w w' : World} {cs : List ControllerCall}
    (hr : ControllerRun k q w cs w') (h : Silent k q w) :
    Silent k q w' ∧ (w'.executions[q]?).bind (·.promise) = (w.executions[q]?).bind (·.promise) ∧
      (∀ c c', w.controllers[k]? = some c → w'.controllers[k]? = some c' → c'.refs ≤ c.refs) ∧
      (∀ b ∈ observed cs, b = false) ∧
      ∀ o b, ControllerCall.leave o b ∈ cs → o = .gone ∧ b = false := by
  induction hr with
  | nil w => exact ⟨h, rfl, fun c c' hc hc' => by simp_all, by simp [observed], by simp⟩
  | @release w w' cs _ ih =>
    obtain ⟨hs₁, c₀, c₁, hk₀, hk₁, hle₁⟩ := h.release
    obtain ⟨h', hp, hle, hs, hl⟩ := ih hs₁
    obtain ⟨-, he, -⟩ := after_release_made hk₀
    refine ⟨h', by rw [hp, he], fun c c' hc hc' => ?_, by simpa [observed, seen] using hs,
      by simpa using hl⟩
    obtain rfl : c₀ = c := by simpa [hk₀] using hc
    exact (hle c₁ c' hk₁ hc').trans hle₁
  | close _ ih =>
    rw [h.closeExecution_eq] at ih
    obtain ⟨h', hp, hle, hs, hl⟩ := ih h
    exact ⟨h', hp, hle, by simpa [observed, seen] using hs, by simpa using hl⟩
  | alive _ ih =>
    obtain ⟨h', hp, hle, hs, hl⟩ := ih h
    refine ⟨h', hp, hle, ?_, by simpa using hl⟩
    simpa [observed, seen, h.liveAt_eq] using hs
  | @gone w w₁ w' receive b cs hl hd _ ih =>
    obtain ⟨c, hk, -, hdis⟩ := h.controller
    rw [dispatchMade_gone _ hk (by simp [Controller.live, hdis])] at hd
    cases hd
    obtain ⟨h', hp, hle, hs, hl⟩ := ih (h.count _ _)
    refine ⟨h', hp, hle, by simpa [observed, seen] using hs, fun o b hx => ?_⟩
    simp only [List.mem_cons, ControllerCall.leave.injEq, reduceCtorEq, false_or] at hx
    rcases hx with ⟨rfl, rfl⟩ | hx
    · exact ⟨rfl, rfl⟩
    · exact hl o b hx
  | delivered hl => simp [h.liveAt_eq] at hl
  | panicked hl => simp [h.liveAt_eq] at hl
  | apart ha _ ih =>
    obtain ⟨h', hp, hle, hs, hl⟩ := ih (h.apart ha)
    refine ⟨h', hp.trans ha.promise, fun c c' hc hc' => ?_, hs, hl⟩
    obtain ⟨c₁, hk₁, hc₁⟩ := Option.map_eq_some_iff.mp (ha.controller.trans (by rw [hc]; rfl))
    simp only [Prod.mk.injEq] at hc₁
    exact hc₁.1 ▸ hle c₁ c' hk₁ hc'

open ControllerCall in
/-- A dead controller stays dead over any run of calls: no receiver is called, every liveness
observed is no, and every dispatch counts as gone and answers no. -/
theorem ControllerRun.dead {k q : Nat} {w w' : World} {cs : List ControllerCall}
    (hr : ControllerRun k q w cs w') (h : Dead k q w) :
    Dead k q w' ∧ (∀ b ∈ observed cs, b = false) ∧
      ∀ o b, ControllerCall.leave o b ∈ cs → o = .gone ∧ b = false := by
  obtain ⟨c, hk, hr₀, hd⟩ := h.controller
  obtain ⟨⟨⟨c', hk', hr', hd'⟩, -⟩, hp, hle, hs, hl⟩ :=
    hr.silent ⟨⟨c, hk, by omega, hd⟩, by simp [h.promise]⟩
  -- no reference to lose: the controller keeps none
  have hle' := hle c c' hk hk'
  exact ⟨⟨⟨c', hk', by omega, hd'⟩, hp.trans h.promise⟩, hs, hl⟩

/-! ## An execution whose Run fails -/

/-- Closing a promise still open disables its controller and releases it. -/
theorem closePromise_open_run {k : Nat} {w : World} {c : Controller}
    (hk : w.controllers[k]? = some c) :
    (closePromise { controller := k }).run w = .ok { controller := k, closed := true }
      (after (release (.made k)) { w with controllers := w.controllers.set! k c.disable }) := by
  have hlt : k < w.controllers.size := (Array.getElem?_eq_some_iff.mp hk).1
  have hk' : ({ w with controllers := w.controllers.set! k c.disable } : World).controllers[k]? =
      some c.disable := by simp [hlt]
  simp only [closePromise, Bool.false_eq_true, if_false, run_bind, controller_run hk,
    setController, modify_run, release_made_run hk', pure_run]

/-- Undoing an execution from a controller with both references: closing its promise leaves one,
disabled, and releasing the provider's takes the last. -/
theorem undo_run {k : Nat} {w : World} {c : Controller} (hk : w.controllers[k]? = some c)
    (hr : c.refs = 2) :
    ∃ W w', (closePromise { controller := k }).run w = .ok { controller := k, closed := true } W ∧
      (release (.made k)).run W = .ok () w' ∧
      (∃ c', w'.controllers[k]? = some c' ∧ c'.refs = 0 ∧ c'.disabled = true) ∧
      w'.executions = w.executions ∧ w'.clock = w.clock ∧ w'.providers = w.providers := by
  have hlt : k < w.controllers.size := (Array.getElem?_eq_some_iff.mp hk).1
  set W₁ : World := { w with controllers := w.controllers.set! k c.disable }
  have hk₁ : W₁.controllers[k]? = some c.disable := by simp [W₁, hlt]
  obtain ⟨hk₂, he₂, -⟩ := after_release_made hk₁
  obtain ⟨hk₃, he₃, -⟩ := after_release_made hk₂
  obtain ⟨hp₂, hc₂⟩ := keeps_release (.made k) W₁
  obtain ⟨hp₃, hc₃⟩ := keeps_release (.made k) (after (release (.made k)) W₁)
  obtain ⟨hr₂, hd₂, -⟩ := c.disable.release_fst (by simp [Controller.disable, hr])
  obtain ⟨hr₃, hd₃, -⟩ := c.disable.release.1.release_fst (by omega)
  have hr₁ : c.disable.refs = 2 := hr
  refine ⟨_, _, closePromise_open_run hk, release_made_run hk₂, ⟨_, hk₃, by omega, ?_⟩,
    he₃.trans he₂, hc₃.trans hc₂, hp₃.trans hp₂⟩
  rw [hd₃, hd₂]
  rfl

/-- A failed Run ends the execution: it answers the Run's fault wrapped as its own, takes a slot
with no promise, leaves the clock and the providers as the Run left them, and drops both of the
controller's references, the promise's by closing it and the provider's by releasing it. -/
theorem launch_failed {w w₂ : World} {q p : Nat} {receiver : Receiver} {name : String}
    {locked : Bool} {e : Fault}
    (hrun : (runProvider p (some (.made w.controllers.size))).run
        { w with controllers := w.controllers.push (Controller.make name receiver p locked w.logger) } =
      .ok (.error e) w₂) :
    ∃ w', (launch q p receiver name locked).run w =
        .ok (Answer.fault (.operation "async" "execute" (some e)
          ("controller=" ++ (Controller.make name receiver p locked w.logger).name))) w' ∧
      w'.executions = w.executions.push { controller := some w.controllers.size } ∧
      Dead w.controllers.size w.executions.size w' ∧
      w'.clock = w₂.clock ∧ w'.providers = w₂.providers := by
  obtain ⟨hcs, hes⟩ : w₂.controllers = w.controllers.push
        (Controller.make name receiver p locked w.logger) ∧ w₂.executions = w.executions := by
    simpa [World.executionSide] using (spares_runProvider p _).of_run_ok hrun
  have hk : w₂.controllers[w.controllers.size]? =
      some (Controller.make name receiver p locked w.logger) := by simp [hcs]
  obtain ⟨W, w₃, hclose, hrel, ⟨c', hk', hr', hd'⟩, he, hc, hp⟩ := undo_run hk rfl
  refine ⟨{ w₃ with executions := w₃.executions.push { controller := some w.controllers.size } },
    ?_, by rw [he, hes], ⟨⟨c', hk', hr', hd'⟩, ?_⟩, hc, hp⟩
  · simp only [launch, run_bind, get_run, set_run, hrun, hclose, hrel, pushExecution, modify_run,
      pure_run]
  · simp [he, hes]

/-! ## What a failed Run leaves to the provider's life -/

/-- The stand-in retained is one a successful Run was given. -/
theorem run_mem_of_retained {cs : List LifeEvent} {f : Nat} (h : retained cs = some f) :
    LifeEvent.run (some f) true ∈ cs := by
  obtain ⟨e, he, hr⟩ := List.exists_of_findSome?_eq_some h
  match e, hr with
  | .run (some _) true, rfl => exact he

/-- A stand-in that no successful Run was given is never dispatched to or released. -/
theorem Ledger.untouched {kind : String} {w₀ w : World} {v : View} {cs : List LifeEvent}
    (h : Ledger kind w₀ v w cs) {f : Nat} (hf : LifeEvent.run (some f) true ∉ cs) :
    w.dispatchesOf f = w₀.dispatchesOf f ∧ w.releasesOf f = w₀.releasesOf f := by
  have hr : retained cs ≠ some f := fun h' => hf (run_mem_of_retained h')
  exact ⟨by simpa [hr] using h.dispatches f, by simpa [hr] using h.releases f⟩

/-- Along a timer's life, a stand-in that no successful Run was given is never dispatched to or
released. -/
theorem TimerLife.untouched {p : Nat} {w₀ w : World} {cs : List LifeEvent} (h₀ : MadeTimer p w₀)
    (hl : TimerLife p true w₀ cs w) {f : Nat} (hf : LifeEvent.run (some f) true ∉ cs) :
    w.dispatchesOf f = w₀.dispatchesOf f ∧ w.releasesOf f = w₀.releasesOf f := by
  obtain ⟨⟨t, g, -, hacc⟩, -⟩ := hl.books h₀.books
  exact hacc.ledger.untouched hf

/-- Along a cron task's life, a stand-in that no successful Run was given is never dispatched to
or released. -/
theorem CronLife.untouched {p : Nat} {w₀ w : World} {es : List CronEvent} (h₀ : MadeCron p w₀)
    (hl : CronLife p true w₀ es w) {f : Nat} (hf : LifeEvent.run (some f) true ∉ lives es) :
    w.dispatchesOf f = w₀.dispatchesOf f ∧ w.releasesOf f = w₀.releasesOf f := by
  obtain ⟨⟨t, g, -, hacc⟩, -⟩ := hl.books h₀.books
  exact hacc.ledger.untouched hf

end Scenario

/-! ## A fetch whose Run fails -/

namespace Fetch

/-- A Run succeeds exactly when it has a controller and no pool refuses its job. -/
theorem start_run_toBool (f : Fetch) (s : FetchSetting) :
    (f.start s).run.toBool = (s.controller && (f.refusal s.launch).isNone) := by
  unfold start
  cases s.controller with
  | false => rfl
  | true =>
    cases f.refusal s.launch with
    | some e => rfl
    | none => simp [Except.toBool]

/-- A Run that fails performs nothing: no request is sent, no outcome is reached, the controller
is neither dispatched to nor released, and nothing is logged or counted. -/
theorem start_failed (f : Fetch) (s : FetchSetting) (h : (f.start s).run.toBool = false) :
    (f.start s).outcome = none ∧ (f.start s).sent = [] ∧ (f.start s).dispatches = 0 ∧
      (f.start s).releases = 0 ∧ (f.start s).lines = [] ∧ (f.start s).metrics = s.metrics := by
  rw [start_run_toBool] at h
  unfold start
  cases hc : s.controller
  · exact ⟨rfl, rfl, rfl, rfl, rfl, rfl⟩
  · obtain ⟨e, he⟩ : ∃ e, f.refusal s.launch = some e :=
      Option.isSome_iff_exists.mp (by simpa [hc] using h)
    simp [he]

/-- A second Run always fails. -/
theorem start_second_fails (f : Fetch) (s : FetchSetting) :
    ∀ r ∈ (f.start s).second, r.toBool = false := by
  have hs : (f.start s).second = if !s.twice then none
      else if !s.controller then some (.error (Validation.missing "fetch" "dispatch_controller"))
      else some (.error f.twiceFault) := by
    unfold start
    cases s.controller with
    | false => rfl
    | true =>
      cases f.refusal s.launch with
      | some e => rfl
      | none => simp
  rw [hs]
  cases s.twice <;> cases s.controller <;> simp [Except.toBool]

end Fetch

namespace Scenario

/-- **A failed execution is undone.** When a provider's Run fails, the execution answers its fault
wrapped as `async`'s `execute`, changes neither the clock nor the provider and leaves its controller
dead over any later calls; timers, cron tasks and fetches whose Run fails retain and dispatch
nothing. -/
theorem failed_execution_is_undone :
    (∀ (w w₂ : World) (q p : Nat) (receiver : Receiver) (name : String) (locked : Bool)
        (e : Fault),
      (runProvider p (some (.made w.controllers.size))).run
          { w with
            controllers := w.controllers.push (Controller.make name receiver p locked w.logger) } =
        .ok (.error e) w₂ →
      ∃ w', (launch q p receiver name locked).run w =
          .ok (Answer.fault (.operation "async" "execute" (some e)
            ("controller=" ++ (Controller.make name receiver p locked w.logger).name))) w' ∧
        (∀ s, (Fault.operation "async" "execute" (some e)
            ("controller=" ++ (Controller.make name receiver p locked w.logger).name)).finds s =
          e.finds s) ∧
        w'.executions = w.executions.push { controller := some w.controllers.size } ∧
        w'.clock = w.clock ∧
        (∃ v v', w.providers[p]? = some v ∧ w'.providers[p]? = some v' ∧
          (v'.task.controller = v.task.controller ∨ v'.task.controller = none) ∧
          v'.task.held = v.task.held) ∧
        ∀ cs w'', ControllerRun w.controllers.size w.executions.size w' cs w'' →
          (∃ c, w''.controllers[w.controllers.size]? = some c ∧ c.refs = 0 ∧ c.disabled = true) ∧
          (∀ b ∈ ControllerCall.observed cs, b = false) ∧
          ∀ o b, ControllerCall.leave o b ∈ cs → o = .gone ∧ b = false) ∧
    (∀ (w w' : World) (p : Nat) (ctrl : Option ControllerRef) (e : Fault),
      (runProvider p ctrl).run w = .ok (.error e) w' →
      w'.clock = w.clock ∧ ∃ v v', w.providers[p]? = some v ∧ w'.providers[p]? = some v' ∧
        (v'.task.controller = v.task.controller ∨ v'.task.controller = none) ∧
        v'.task.held = v.task.held) ∧
    (∀ (p : Nat) (w₀ w : World) (cs : List LifeEvent) (f : Nat), MadeTimer p w₀ →
      TimerLife p true w₀ cs w → LifeEvent.run (some f) true ∉ cs →
      w.dispatchesOf f = w₀.dispatchesOf f ∧ w.releasesOf f = w₀.releasesOf f) ∧
    (∀ (p : Nat) (w₀ w : World) (es : List CronEvent) (f : Nat), MadeCron p w₀ →
      CronLife p true w₀ es w → LifeEvent.run (some f) true ∉ lives es →
      w.dispatchesOf f = w₀.dispatchesOf f ∧ w.releasesOf f = w₀.releasesOf f) ∧
    ∀ (f : Fetch) (s : FetchSetting),
      (f.start s).run.toBool = (s.controller && (f.refusal s.launch).isNone) ∧
      ((f.start s).run.toBool = false → (f.start s).outcome = none ∧ (f.start s).sent = [] ∧
        (f.start s).dispatches = 0 ∧ (f.start s).releases = 0) ∧
      ∀ r ∈ (f.start s).second, r.toBool = false := by
  refine ⟨fun w w₂ q p receiver name locked e hrun => ?_,
    fun _ _ _ _ _ hrun => runProvider_failed hrun,
    fun _ _ _ _ _ h₀ hl hf => TimerLife.untouched h₀ hl hf,
    fun _ _ _ _ _ h₀ hl hf => CronLife.untouched h₀ hl hf,
    fun f s => ⟨f.start_run_toBool s, fun h => ?_, f.start_second_fails s⟩⟩
  · obtain ⟨w', hlaunch, hex, hdead, hclock, hprov⟩ := launch_failed (q := q) hrun
    obtain ⟨hclock₂, v, v', hv, hv', hctl, hheld⟩ := runProvider_failed hrun
    refine ⟨w', hlaunch, fun _ => rfl, hex, hclock.trans hclock₂,
      ⟨v, v', hv, hprov ▸ hv', hctl, hheld⟩, fun cs w'' hr => ?_⟩
    obtain ⟨hdead', hobs, hleave⟩ := hr.dead hdead
    exact ⟨hdead'.controller, hobs, hleave⟩
  · obtain ⟨ho, hs, hd, hr, -⟩ := f.start_failed s h
    exact ⟨ho, hs, hd, hr⟩

/-- An execution of a destroyed timer fails with the timer's refusal as closed, wrapped as the
execution's fault, and leaves the clock as it was. -/
theorem destroyed_timer_execution_is_undone :
    ∃ (w w₂ : World) (e : Fault),
      (runProvider 0 (some (.made w.controllers.size))).run
          { w with controllers :=
            w.controllers.push (Controller.make "c" (.script 0 []) 0 false w.logger) } =
        .ok (.error e) w₂ ∧ e.finds .closed = true ∧
      ∃ w', (launch 0 0 (.script 0 []) "c" false).run w =
          .ok (Answer.fault (.operation "async" "execute" (some e)
            ("controller=" ++ (Controller.make "c" (.script 0 []) 0 false w.logger).name))) w' ∧
        w'.clock = w.clock := by
  obtain ⟨w, w₂, e, hrun, he⟩ : ∃ (w w₂ : World) (e : Fault),
      (runProvider 0 (some (.made w.controllers.size))).run
          { w with controllers :=
            w.controllers.push (Controller.make "c" (.script 0 []) 0 false w.logger) } =
        .ok (.error e) w₂ ∧ e.finds .closed = true :=
    ⟨{ clock := Clock.start Time.epoch,
       providers := #[{ task := .timer { name := "t", mode := .oneOff, period := 0,
                                         initial := 0, cont := 1, destroyed := true,
                                         logger := {} } }] },
      _, _, rfl, rfl⟩
  obtain ⟨w', hl, -, -, hclock, -⟩ :=
    failed_execution_is_undone.1 w w₂ 0 0 (.script 0 []) "c" false e hrun
  exact ⟨w, w₂, e, hrun, he, w', hl, hclock⟩

end Scenario

end HostDispatch
