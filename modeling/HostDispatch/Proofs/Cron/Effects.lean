import HostDispatch.Proofs.Provider.Lifecycle
import HostDispatch.Proofs.Timer.Tokens

/-!
# What a cron task's operations leave behind

A cron task keeps its state in its provider slot and acts on the clock, like a timer. This module
works out once what running, firing and destroying it leave in its slot and on the clock, as pure
functions of the slot and the clock: `CronTask.runEffect`, `CronTask.firingEffect` and
`CronTask.destroyEffect`, all through `CronTask.armEffect`, the arming of its next activation.
Later proofs cite `armCron_effect`, `runCron_effect`, `cronFiringPrefix_effect` and
`destroyCron_effect` and never open the operations. A firing is split at its dispatch
(`fireCron_eq`), as a timer's is.

The invariant of the task and its clock, `CronTask.Holds`, says that the actions pending on its
continuation are exactly the one-shot it holds, if any; none before it runs, none once it is
destroyed. Running, firing and destroying keep it, and none of them counts a cancel that is
refused.
-/

namespace HostDispatch

namespace Clock

/-- A change of the clock that counts no cancel, refused or not. -/
def SameCancels (k k' : Clock) : Prop :=
  k'.stats.canceled = k.stats.canceled ∧ k'.stats.cancelMisuse = k.stats.cancelMisuse

theorem SameCancels.refl (k : Clock) : SameCancels k k := ⟨rfl, rfl⟩

theorem SameCancels.trans {k₁ k₂ k₃ : Clock} (h₁ : SameCancels k₁ k₂) (h₂ : SameCancels k₂ k₃) :
    SameCancels k₁ k₃ :=
  ⟨h₂.1.trans h₁.1, h₂.2.trans h₁.2⟩

theorem schedule_sameCancels {k k' : Clock} {cont : Option Nat} {kind : Kind} {d : Int} {id : Nat}
    (h : k.schedule cont kind d = .ok (id, k')) : SameCancels k k' := by
  cases cont with
  | none => simp [schedule] at h
  | some c =>
    simp only [schedule] at h
    split at h
    · cases h
    · obtain ⟨rfl, rfl⟩ := Prod.mk.inj (Except.ok.inj h)
      cases kind <;> exact ⟨rfl, rfl⟩

theorem takeDue_sameCancels {k k' : Clock} {t : Time} {f : Firing}
    (h : k.takeDue t = some (f, k')) : SameCancels k k' := by
  obtain ⟨q, -, rfl⟩ := takeDue_eq_some.mp h
  exact ⟨rfl, rfl⟩

end Clock

theorem Gate.arm_sameCancels (g : Gate) (k : Clock) (cont : Nat) (kind : Kind) (d : Int) :
    Clock.SameCancels k (g.arm k cont kind d).2.2 := by
  unfold Gate.arm
  split
  · split
    · rename_i hs
      exact Clock.schedule_sameCancels hs
    · exact Clock.SameCancels.refl k
  · exact Clock.SameCancels.refl k

namespace CronTask

/-- The task's next activation after a time, read in its zone; the zero time if there is none. -/
def nextActivation (t : CronTask) (now : Time) : Time := t.schedule.next (now.inZone t.zone)

/-- Arming a task for its next activation after the clock's time: the outcome, and the task, its
gate and the clock after it. A schedule with no activation left arms nothing and succeeds; an
arming the port refuses leaves the task as it was. -/
def armEffect (t : CronTask) (g : Gate) (k : Clock) : Except Fault Unit × CronTask × Gate × Clock :=
  let next := t.nextActivation k.now
  if next.isZero then (.ok (), { t with next := Time.zero }, g, k)
  else
    match g.arm k t.cont .once (next.sub (k.now.inZone t.zone)) with
    | (.ok a, g', k') => (.ok (), { t with pending := some a, next := next }, g', k')
    | (.error e, g', k') => (.error e, t, g', k')

section Arm

variable {t : CronTask} {g g' : Gate} {k k' : Clock}

theorem armEffect_of_isZero (hz : (t.nextActivation k.now).isZero = true) :
    t.armEffect g k = (.ok (), { t with next := Time.zero }, g, k) := by
  simp [armEffect, hz]

theorem armEffect_of_arm {a : Nat} (hz : (t.nextActivation k.now).isZero = false)
    (harm : g.arm k t.cont .once ((t.nextActivation k.now).sub (k.now.inZone t.zone)) =
      (.ok a, g', k')) :
    t.armEffect g k =
      (.ok (), { t with pending := some a, next := t.nextActivation k.now }, g', k') := by
  simp [armEffect, hz, harm]

theorem armEffect_of_error {e : Fault} (hz : (t.nextActivation k.now).isZero = false)
    (harm : g.arm k t.cont .once ((t.nextActivation k.now).sub (k.now.inZone t.zone)) =
      (.error e, g', k')) :
    t.armEffect g k = (.error e, t, g', k') := by
  simp [armEffect, hz, harm]

/-- Arming touches nothing of the task but the activation it holds and the time of the next. -/
theorem armEffect_frame (t : CronTask) (g : Gate) (k : Clock) :
    (t.armEffect g k).2.1 =
      { t with pending := (t.armEffect g k).2.1.pending, next := (t.armEffect g k).2.1.next } := by
  unfold armEffect
  dsimp only
  split
  · rfl
  · split <;> rfl

end Arm

/-- What running a task with a controller (or none) leaves. A task that is destroyed or already
ran is left alone; otherwise it keeps the controller and arms its first activation, and drops the
controller again if that is refused. -/
def runEffect (t : CronTask) (ctrl : Option ControllerRef) (g : Gate) (k : Clock) :
    CronTask × Gate × Clock :=
  match ctrl with
  | none => (t, g, k)
  | some c =>
    if t.destroyed || t.ran then (t, g, k)
    else
      match ({ t with ran := true, controller := some c } : CronTask).armEffect g k with
      | (.ok (), t', g', k') => (t', g', k')
      | (.error _, t', g', k') => ({ t' with controller := none }, g', k')

section Run

variable {t : CronTask} {c : ControllerRef} {g g' : Gate} {k k' : Clock} {t' : CronTask}

/-- A Run of a live task that was not run before keeps what its first arming leaves. -/
theorem runEffect_of_arm_ok (hd : t.destroyed = false) (hr : t.ran = false)
    (harm : ({ t with ran := true, controller := some c } : CronTask).armEffect g k =
      (.ok (), t', g', k')) :
    t.runEffect (some c) g k = (t', g', k') := by
  unfold runEffect
  dsimp only
  rw [if_neg (by simp [hd, hr]), harm]

/-- A Run whose first arming is refused drops the controller it kept. -/
theorem runEffect_of_arm_error {e : Fault} (hd : t.destroyed = false) (hr : t.ran = false)
    (harm : ({ t with ran := true, controller := some c } : CronTask).armEffect g k =
      (.error e, t', g', k')) :
    t.runEffect (some c) g k = ({ t' with controller := none }, g', k') := by
  unfold runEffect
  dsimp only
  rw [if_neg (by simp [hd, hr]), harm]

/-- A Run without a controller, or of a task destroyed or run before, changes nothing. -/
theorem runEffect_of_not_arming {ctrl : Option ControllerRef}
    (h : (ctrl.isSome && !(t.destroyed || t.ran)) = false) : t.runEffect ctrl g k = (t, g, k) := by
  cases ctrl with
  | none => rfl
  | some c =>
    simp only [Option.isSome_some, Bool.true_and, Bool.not_eq_false'] at h
    simp [runEffect, h]

end Run

/-- What a firing leaves before it dispatches: a live task forgets the activation that fired and
arms the next one. -/
def firingEffect (t : CronTask) (g : Gate) (k : Clock) : CronTask × Gate × Clock :=
  if t.destroyed then (t, g, k)
  else (({ t with pending := none, next := Time.zero } : CronTask).armEffect g k).2

/-- Whom a firing dispatches to: the controller of the task it leaves, unless the task was
destroyed. -/
def firingAnswer (t : CronTask) (g : Gate) (k : Clock) : Option (CronTask × ControllerRef) :=
  if t.destroyed then none
  else (t.firingEffect g k).1.controller.map fun c => ((t.firingEffect g k).1, c)

/-- What destroying a task leaves: the first destroy cancels the activation it holds, destroys
its continuation and drops its controller; a second changes nothing. -/
def destroyEffect (t : CronTask) (k : Clock) : CronTask × Clock :=
  if t.destroyed then (t, k)
  else
    ({ t with destroyed := true, pending := none, controller := none, next := Time.zero },
      (k.withdraw t.pending).destroyContinuation (some t.cont))

/-! ## What the task keeps true of its clock -/

theorem armEffect_sameConts (t : CronTask) (g : Gate) (k : Clock) :
    Clock.SameConts k (t.armEffect g k).2.2.2 := by
  unfold armEffect
  dsimp only
  split
  · exact ⟨rfl, rfl⟩
  · have h := Gate.arm_sameConts g k t.cont .once
      ((t.nextActivation k.now).sub (k.now.inZone t.zone))
    split <;> next heq => rw [heq] at h; exact h

theorem armEffect_sameCancels (t : CronTask) (g : Gate) (k : Clock) :
    Clock.SameCancels k (t.armEffect g k).2.2.2 := by
  unfold armEffect
  dsimp only
  split
  · exact Clock.SameCancels.refl k
  · have h := Gate.arm_sameCancels g k t.cont .once
      ((t.nextActivation k.now).sub (k.now.inZone t.zone))
    split <;> next heq => rw [heq] at h; exact h

theorem runEffect_sameConts (t : CronTask) (ctrl : Option ControllerRef) (g : Gate) (k : Clock) :
    Clock.SameConts k (t.runEffect ctrl g k).2.2 ∧
      Clock.SameCancels k (t.runEffect ctrl g k).2.2 := by
  unfold runEffect
  split
  · exact ⟨⟨rfl, rfl⟩, Clock.SameCancels.refl k⟩
  split
  · exact ⟨⟨rfl, rfl⟩, Clock.SameCancels.refl k⟩
  rename_i c _
  have h₁ := armEffect_sameConts { t with ran := true, controller := some c } g k
  have h₂ := armEffect_sameCancels { t with ran := true, controller := some c } g k
  split <;> next heq => rw [heq] at h₁ h₂; exact ⟨h₁, h₂⟩

theorem firingEffect_sameConts (t : CronTask) (g : Gate) (k : Clock) :
    Clock.SameConts k (t.firingEffect g k).2.2 ∧ Clock.SameCancels k (t.firingEffect g k).2.2 := by
  unfold firingEffect
  split
  · exact ⟨⟨rfl, rfl⟩, Clock.SameCancels.refl k⟩
  · exact ⟨armEffect_sameConts _ g k, armEffect_sameCancels _ g k⟩

/-- What holds of a cron task and its clock at every step. The actions pending on its
continuation are the one-shot it holds, if any; it holds none before it runs or once it is
destroyed; its continuation is destroyed only with it. -/
structure Holds (t : CronTask) (k : Clock) : Prop where
  pending : (k.pendingOn t.cont).map Action.tag = t.pending.toList.map (·, Kind.once)
  idle : t.ran = false → t.pending = none
  destroyed : t.destroyed = true → t.pending = none
  live : k.isDestroyed t.cont = true → t.destroyed = true

section Holds

variable {t : CronTask} {k : Clock}

/-- A task that holds nothing, with nothing pending on its continuation, keeps its invariant as
long as its continuation is destroyed only with it. -/
theorem holds_of_none (hn : t.pending = none) (hp : k.pendingOn t.cont = [])
    (hl : k.isDestroyed t.cont = true → t.destroyed = true) : t.Holds k :=
  ⟨by simp [hn, hp], fun _ => hn, fun _ => hn, hl⟩

theorem Holds.pendingOn_eq_nil (h : t.Holds k) (hn : t.pending = none) :
    k.pendingOn t.cont = [] := by
  have hmap := h.pending
  rw [hn] at hmap
  exact List.map_eq_nil_iff.mp hmap

/-- At most one action is pending on the task's continuation. -/
theorem Holds.pendingOn_length_le (h : t.Holds k) : (k.pendingOn t.cont).length ≤ 1 := by
  have hlen := congrArg List.length h.pending
  rw [List.length_map, List.length_map] at hlen
  rw [hlen]
  cases t.pending <;> simp

/-- A task that holds an activation has run, and neither it nor its continuation is destroyed. -/
theorem Holds.alive (h : t.Holds k) {a : Nat} (ha : t.pending = some a) :
    t.ran = true ∧ t.destroyed = false ∧ k.isDestroyed t.cont = false := by
  have hr : t.ran = true := by
    cases hr : t.ran
    · simp [h.idle hr] at ha
    · rfl
  have hd : t.destroyed = false := by
    cases hd : t.destroyed
    · rfl
    · simp [h.destroyed hd] at ha
  refine ⟨hr, hd, ?_⟩
  cases hl : k.isDestroyed t.cont
  · rfl
  · simpa [hd] using h.live hl

theorem Holds.aside (h : t.Holds k) {k' : Clock} (ha : Clock.Aside t.cont k k') : t.Holds k' :=
  { h with
    pending := ha.pending ▸ h.pending
    live := fun hl => h.live (ha.destroyed ▸ hl) }

/-- A task that has run, is live and holds nothing keeps its invariant when it arms its next
activation: it holds the one-shot armed, or nothing if none is armed. -/
theorem Holds.arm (h : t.Holds k) (hn : t.pending = none) (hr : t.ran = true)
    (hd : t.destroyed = false) (g : Gate) :
    (t.armEffect g k).2.1.Holds (t.armEffect g k).2.2.2 := by
  have hnil := h.pendingOn_eq_nil hn
  cases hz : (t.nextActivation k.now).isZero with
  | true =>
    rw [armEffect_of_isZero hz]
    exact holds_of_none hn hnil h.live
  | false =>
    rcases harm : g.arm k t.cont .once ((t.nextActivation k.now).sub (k.now.inZone t.zone)) with
      ⟨r, g', k'⟩
    cases r with
    | ok a =>
      rw [armEffect_of_arm hz harm]
      have hs := (Gate.arm_ok harm).1
      obtain ⟨-, -, -, -, -, -, hdk⟩ := Clock.schedule_eq_ok hs
      have hpend := Clock.schedule_pendingOn_self hs
      rw [hnil] at hpend
      refine ⟨?_, fun h' => absurd h' (by simp [hr]), fun h' => absurd h' (by simp [hd]),
        fun hl => h.live ((Clock.isDestroyed_congr hdk _).symm.trans hl)⟩
      simpa using List.perm_singleton.mp hpend
    | error e =>
      rw [armEffect_of_error hz harm]
      obtain ⟨rfl, -⟩ := Gate.arm_error harm
      exact h

end Holds

theorem Holds.run {t : CronTask} {k : Clock} (h : t.Holds k) (ctrl : Option ControllerRef)
    (g : Gate) : (t.runEffect ctrl g k).1.Holds (t.runEffect ctrl g k).2.2 := by
  unfold runEffect
  cases ctrl with
  | none => exact h
  | some c =>
    dsimp only
    by_cases hdr : (t.destroyed || t.ran) = true
    · rw [if_pos hdr]
      exact h
    rw [if_neg hdr]
    simp only [Bool.or_eq_true, not_or, Bool.not_eq_true] at hdr
    obtain ⟨hd, hr⟩ := hdr
    have h₁ : ({ t with ran := true, controller := some c } : CronTask).Holds k :=
      holds_of_none (h.idle hr) (h.pendingOn_eq_nil (h.idle hr)) h.live
    have ha := h₁.arm (h.idle hr) rfl hd g
    have hf := armEffect_frame { t with ran := true, controller := some c } g k
    split
    · next heq => rw [heq] at ha; exact ha
    · next heq =>
      rw [heq] at ha hf
      exact { ha with
        idle := fun h' => ha.idle (by simpa [hf] using h')
        destroyed := fun h' => ha.destroyed h'
        live := fun h' => ha.live h' }

/-- A firing of the activation a task holds, up to its dispatch, keeps its invariant: the one-shot
that fired is gone, and the task arms the next. -/
theorem Holds.fire {t : CronTask} {k k' : Clock} {target : Time} {f : Firing} (h : t.Holds k)
    (ht : k.takeDue target = some (f, k')) (hf : f.cont = t.cont) (g : Gate) :
    (t.firingEffect g k').1.Holds (t.firingEffect g k').2.2 := by
  obtain ⟨rest, he, hafter⟩ := Clock.takeDue_pendingOn_self ht
  rw [hf] at he hafter
  rw [h.pending] at he
  -- The task holds one activation, so it is the one that fired and nothing else was pending.
  cases hp : t.pending with
  | none => simp [hp] at he
  | some a =>
    simp only [hp, Option.toList_some, List.map_cons, List.map_nil, List.cons.injEq,
      Prod.mk.injEq] at he
    obtain ⟨⟨-, hkind⟩, hrest⟩ := he
    obtain ⟨hr, hd, hl⟩ := h.alive hp
    have hnil : k'.pendingOn t.cont = [] := by
      rw [← hkind, ← hrest] at hafter
      exact List.map_eq_nil_iff.mp hafter.eq_nil
    have hl' : k'.isDestroyed t.cont = false :=
      (Clock.isDestroyed_congr (Clock.takeDue_destroyed ht) _).trans hl
    have h₀ : ({ t with pending := none, next := Time.zero } : CronTask).Holds k' :=
      holds_of_none rfl hnil (fun hl₁ => absurd (hl'.symm.trans hl₁) (by simp))
    unfold firingEffect
    rw [if_neg (by simp [hd])]
    exact h₀.arm rfl hr hd g

/-- Withdrawing the activation a task holds leaves nothing pending on its continuation, and the
cancel, if it makes one, succeeds. -/
theorem Holds.withdraw {t : CronTask} {k : Clock} (h : t.Holds k) :
    (k.withdraw t.pending).pendingOn t.cont = [] ∧
      (k.withdraw t.pending).stats.canceled = k.stats.canceled + t.pending.toList.length ∧
      (k.withdraw t.pending).stats.cancelMisuse = k.stats.cancelMisuse := by
  cases hp : t.pending with
  | none => exact ⟨h.pendingOn_eq_nil hp, by simp [Clock.withdraw], rfl⟩
  | some a =>
    have hone : (k.pendingOn t.cont).map Action.tag = [(a, .once)] := by simp [h.pending, hp]
    simpa using Clock.withdraw_only hone

theorem Holds.destroy {t : CronTask} {k : Clock} (h : t.Holds k) :
    (t.destroyEffect k).1.Holds (t.destroyEffect k).2 := by
  unfold destroyEffect
  split
  · exact h
  · exact holds_of_none rfl
      (by rw [Clock.destroyContinuation_pendingOn]; exact h.withdraw.1) (fun _ => rfl)

/-- Destroying a task cancels the activation it holds, if any, and that cancel succeeds. -/
theorem Holds.destroy_stats {t : CronTask} {k : Clock} (h : t.Holds k) :
    (t.destroyEffect k).2.stats.canceled = k.stats.canceled + t.pending.toList.length ∧
      (t.destroyEffect k).2.stats.cancelMisuse = k.stats.cancelMisuse := by
  unfold destroyEffect
  split
  · rename_i hd
    simp [h.destroyed hd]
  · obtain ⟨h₁, h₂⟩ := Clock.destroyContinuation_stats (k.withdraw t.pending) (some t.cont)
    exact ⟨h₁.trans h.withdraw.2.1, h₂.trans h.withdraw.2.2⟩

end CronTask

namespace Scenario

/-! ## Reading and writing the task's slot -/

theorem now_run (w : World) : (now : Sim Time).run w = .ok w.clock.now w := rfl

theorem cronTask_run (p : Nat) (w : World) :
    (cronTask p).run w = match w.providers[p]? with
      | some ⟨.cron t, _⟩ => .ok t w
      | some ⟨.timer _, _⟩ =>
        .error (.panic "runtime error: invalid memory address or nil pointer dereference") w
      | none => .error (.badInput ("no provider " ++ toString (p : Int))) w := by
  simp only [cronTask, run_bind, provider_run]
  cases w.providers[p]? with
  | none => rfl
  | some v =>
    obtain ⟨task, g⟩ := v
    cases task <;> rfl

theorem setCronTask_run (p : Nat) (t : CronTask) (w : World) :
    (setCronTask p t).run w = match w.providers[p]? with
      | some v => .ok () { w with providers := w.providers.set! p { v with task := .cron t } }
      | none => .error (.badInput ("no provider " ++ toString (p : Int))) w := by
  simp only [setCronTask, run_bind, provider_run]
  cases w.providers[p]? <;> rfl

theorem after_cronTask (p : Nat) (w : World) : after (cronTask p) w = w := by
  simp only [after, cronTask_run]
  split <;> rename_i h <;> split at h <;> cases h <;> rfl

theorem after_setCronTask (p : Nat) (t : CronTask) (w : World) :
    after (setCronTask p t) w = match w.providers[p]? with
      | some v => { w with providers := w.providers.set! p { v with task := .cron t } }
      | none => w := by
  simp only [after, setCronTask_run]
  cases w.providers[p]? <;> rfl

theorem quiet_cronTask (p : Nat) : Quiet (cronTask p) :=
  Quiet.of_books fun w => by rw [after_cronTask]; exact ⟨rfl, rfl⟩

theorem quiet_setCronTask (p : Nat) (t : CronTask) : Quiet (setCronTask p t) :=
  Quiet.of_books fun w => by
    rw [after_setCronTask]
    split <;> exact ⟨rfl, rfl⟩

/-! ## Arming, running and destroying -/

theorem armCron_effect {w : World} {p : Nat} {t : CronTask} {g : Gate}
    (h : w.providers[p]? = some ⟨.cron t, g⟩) :
    ∃ W, (armCron p).run w = .ok (t.armEffect g w.clock).1 W ∧
      W.providers[p]? = some ⟨.cron (t.armEffect g w.clock).2.1, (t.armEffect g w.clock).2.2.1⟩ ∧
      W.clock = (t.armEffect g w.clock).2.2.2 := by
  obtain ⟨hp, -⟩ := Array.getElem?_eq_some_iff.mp h
  simp only [armCron, run_bind, cronTask_run, h, now_run]
  cases hz : (t.nextActivation w.clock.now).isZero with
  | true =>
    rw [CronTask.armEffect_of_isZero hz]
    have hz' : (t.schedule.next (w.clock.now.inZone t.zone)).isZero = true := hz
    rw [if_pos hz']
    simp only [run_bind, setCronTask_run, h, log_run]
    exact ⟨_, rfl, by simp [hp], by simp⟩
  | false =>
    have hz' : ¬(t.schedule.next (w.clock.now.inZone t.zone)).isZero = true := by
      simpa [CronTask.nextActivation] using hz
    rw [if_neg hz']
    simp only [run_bind, gatedSchedule_run, h]
    rcases harm : g.arm w.clock t.cont .once
      ((t.nextActivation w.clock.now).sub (w.clock.now.inZone t.zone)) with ⟨r, g', k'⟩
    have harm' : g.arm w.clock t.cont .once
        ((t.schedule.next (w.clock.now.inZone t.zone)).sub (w.clock.now.inZone t.zone)) =
        (r, g', k') := harm
    cases r with
    | ok a =>
      rw [CronTask.armEffect_of_arm hz harm]
      simp [harm', cronTask_run, setCronTask_run, log_run, run_map, hp, CronTask.nextActivation]
    | error e =>
      rw [CronTask.armEffect_of_error hz harm]
      simp [harm', hp]

theorem quiet_now : Quiet (now : Sim Time) := fun _ => ⟨rfl, rfl, fun _ => rfl⟩

theorem quiet_armCron (p : Nat) : Quiet (armCron p) := by
  unfold armCron
  refine Quiet.bind (quiet_cronTask p) fun t => ?_
  refine Quiet.bind quiet_now fun _ => ?_
  repeat' (first
    | exact quiet_pure _
    | refine Quiet.bind (quiet_cronTask _) fun _ => ?_
    | refine Quiet.bind (quiet_setCronTask _ _) fun _ => ?_
    | refine Quiet.bind (quiet_log _ _ _ _) fun _ => ?_
    | refine Quiet.bind (quiet_gatedSchedule _ _ _ _) fun _ => ?_
    | dsimp only
    | split)

/-- Running a task that is neither destroyed nor run: it keeps the controller and arms its first
activation, and drops the controller again if that is refused. -/
theorem runCron_effect_live {w : World} {p : Nat} {t : CronTask} {g : Gate}
    (h : w.providers[p]? = some ⟨.cron t, g⟩) (c : ControllerRef) (hd : ¬t.destroyed = true)
    (hr : ¬t.ran = true) :
    (after (runCron p (some c)) w).providers[p]? =
        some ⟨.cron (t.runEffect (some c) g w.clock).1, (t.runEffect (some c) g w.clock).2.1⟩ ∧
      (after (runCron p (some c)) w).clock = (t.runEffect (some c) g w.clock).2.2 := by
  obtain ⟨hp, -⟩ := Array.getElem?_eq_some_iff.mp h
  simp only [runCron, after_bind, cronTask_run, h]
  rw [if_neg hd, if_neg hr]
  simp only [after_bind, setCronTask_run, h]
  have h₁ : ({ w with providers := (w.providers.set! p
      { task := .cron { t with ran := true, controller := some c }, gate := g }) } :
        World).providers[p]? =
      some ⟨.cron { t with ran := true, controller := some c }, g⟩ := by simp [hp]
  obtain ⟨W, hW, hslot, hclock⟩ := armCron_effect h₁
  obtain ⟨hWp, hWv⟩ := Array.getElem?_eq_some_iff.mp hslot
  rw [hW]
  have hdr : (t.destroyed || t.ran) = false := by
    simp only [Bool.not_eq_true] at hd hr
    simp [hd, hr]
  unfold CronTask.runEffect
  dsimp only
  rw [if_neg (by simp [hdr])]
  rcases harm : ({ t with ran := true, controller := some c } : CronTask).armEffect g w.clock with
    ⟨r, t', g', k'⟩
  rw [harm] at hslot hclock hWv
  cases r with
  | ok u => simpa using ⟨hslot, hclock⟩
  | error e =>
    simp only at hslot hclock hWv ⊢
    simp only [after_bind, cronTask_run, hslot]
    simp [setCronTask_run, hWp, hWv, hclock]

theorem runCron_effect {w : World} {p : Nat} {t : CronTask} {g : Gate}
    (h : w.providers[p]? = some ⟨.cron t, g⟩) (ctrl : Option ControllerRef) :
    (after (runCron p ctrl) w).providers[p]? =
        some ⟨.cron (t.runEffect ctrl g w.clock).1, (t.runEffect ctrl g w.clock).2.1⟩ ∧
      (after (runCron p ctrl) w).clock = (t.runEffect ctrl g w.clock).2.2 := by
  cases ctrl with
  | none => simp [runCron, after_cronTask, h, CronTask.runEffect]
  | some c =>
    by_cases hd : t.destroyed = true
    · simp [runCron, after_bind, cronTask_run, h, CronTask.runEffect, hd]
    by_cases hr : t.ran = true
    · simp [runCron, after_bind, cronTask_run, h, CronTask.runEffect, hd, hr]
    exact runCron_effect_live h c hd hr

/-- A Run succeeds exactly when it has a controller, the task is neither destroyed nor run, and the
task keeps the controller, which it does unless arming its first activation is refused. -/
theorem runCron_toBool {w w' : World} {p : Nat} {t : CronTask} {g : Gate}
    (h : w.providers[p]? = some ⟨.cron t, g⟩) {ctrl : Option ControllerRef}
    {r : Except Fault Unit} (hrun : (runCron p ctrl).run w = .ok r w') :
    r.toBool = (ctrl.isSome && !(t.destroyed || t.ran) &&
      (t.runEffect ctrl g w.clock).1.controller.isSome) := by
  obtain ⟨hp, -⟩ := Array.getElem?_eq_some_iff.mp h
  cases ctrl with
  | none =>
    simp [runCron, run_map, cronTask_run, h] at hrun
    obtain ⟨rfl, -⟩ := hrun
    rfl
  | some c =>
    by_cases hd : t.destroyed = true
    · simp [runCron, cronTask_run, h, hd] at hrun
      obtain ⟨rfl, -⟩ := hrun
      simp [hd, Except.toBool]
    by_cases hr : t.ran = true
    · simp [runCron, cronTask_run, h, hd, hr] at hrun
      obtain ⟨rfl, -⟩ := hrun
      simp [hr, Except.toBool]
    simp only [runCron, run_bind, cronTask_run, h] at hrun
    rw [if_neg hd, if_neg hr] at hrun
    simp only [run_bind, setCronTask_run, h] at hrun
    have h₁ : ({ w with providers := (w.providers.set! p
        { task := .cron { t with ran := true, controller := some c }, gate := g }) } :
          World).providers[p]? =
        some ⟨.cron { t with ran := true, controller := some c }, g⟩ := by simp [hp]
    obtain ⟨W, hW, hslot, -⟩ := armCron_effect h₁
    obtain ⟨hWp, hWv⟩ := Array.getElem?_eq_some_iff.mp hslot
    rw [hW] at hrun
    have hdr : (t.destroyed || t.ran) = false := by
      simp only [Bool.not_eq_true] at hd hr
      simp [hd, hr]
    have hctl := CronTask.armEffect_frame { t with ran := true, controller := some c } g w.clock
    unfold CronTask.runEffect
    dsimp only
    rw [if_neg (by simp [hdr]), hdr]
    rcases harm : ({ t with ran := true, controller := some c } : CronTask).armEffect g w.clock with
      ⟨a, t', g', k'⟩
    rw [harm] at hrun hWv hctl
    cases a with
    | ok u =>
      simp only [pure_run, EStateM.Result.ok.injEq] at hrun hctl
      rw [← hrun.1, hctl]
      rfl
    | error e =>
      simp only at hWv
      simp only [cronTask_run, setCronTask_run, run_bind, Array.getElem?_eq_getElem hWp, hWv,
        pure_run, EStateM.Result.ok.injEq] at hrun
      rw [← hrun.1]
      rfl

theorem quiet_runCron (p : Nat) (ctrl : Option ControllerRef) : Quiet (runCron p ctrl) := by
  unfold runCron
  refine Quiet.bind (quiet_cronTask p) fun t => ?_
  repeat' (first
    | exact quiet_pure _
    | refine Quiet.bind (quiet_cronTask _) fun _ => ?_
    | refine Quiet.bind (quiet_setCronTask _ _) fun _ => ?_
    | refine Quiet.bind (quiet_armCron _) fun _ => ?_
    | dsimp only
    | split)

/-- The part of destroying a live task before it settles: it marks the task destroyed, cancels the
activation it holds and destroys its continuation. -/
def dismantleCron (p : Nat) (t : CronTask) : Sim Unit := do
  setCronTask p { t with destroyed := true, pending := none, controller := none, next := Time.zero }
  if let some a := t.pending then cancelArmed t.logger a false
  destroyCont (some t.cont)

/-- Destroying a task dismantles it and settles, unless it is destroyed already. -/
theorem destroyCron_eq (p : Nat) (reason : String) :
    destroyCron p reason = (do
      let t ← cronTask p
      if t.destroyed then return
      dismantleCron p t
      settle t.controller "crontask" reason) := by
  unfold destroyCron dismantleCron settle
  refine congrArg (cronTask p >>= ·) (funext fun t => ?_)
  split
  · rfl
  · cases t.pending <;> cases t.controller <;> simp only [bind_assoc]

theorem destroyCron_effect {w : World} {p : Nat} {t : CronTask} {g : Gate}
    (h : w.providers[p]? = some ⟨.cron t, g⟩) (reason : String) :
    (after (destroyCron p reason) w).providers[p]? = some ⟨.cron (t.destroyEffect w.clock).1, g⟩ ∧
      (after (destroyCron p reason) w).clock = (t.destroyEffect w.clock).2 := by
  obtain ⟨hp, hv⟩ := Array.getElem?_eq_some_iff.mp h
  by_cases hd : t.destroyed = true
  · simp [destroyCron, after_bind, cronTask_run, h, CronTask.destroyEffect, hd]
  cases hq : t.pending <;> cases hc : t.controller <;>
    simp [destroyCron, after_bind, cronTask_run, setCronTask_run, cancelArmed_run,
      destroyCont_run, hp, hv, CronTask.destroyEffect, hd, hq, hc, Clock.withdraw,
      after_cancelArmed]
  -- What is left is releasing the controller, which may be interrupted but touches neither the
  -- providers nor the clock.
  all_goals
    split <;> rename_i hrel
    · obtain ⟨h₁, h₂⟩ := (keeps_release _).of_run_ok hrel
      simp [h₁, h₂, hp]
    · obtain ⟨h₁, h₂⟩ := (keeps_release _).of_run_error hrel
      simp [h₁, h₂, hp]

theorem dismantleCron_ok {w : World} {p : Nat} (hp : p < w.providers.size) (t : CronTask) :
    ∃ W, (dismantleCron p t).run w = .ok () W := by
  have hs : w.providers[p]? = some w.providers[p] := Array.getElem?_eq_getElem hp
  cases hq : t.pending <;>
    simp [dismantleCron, setCronTask_run, hs, cancelArmed_run, destroyCont_run, hq]

theorem quiet_dismantleCron (p : Nat) (t : CronTask) : Quiet (dismantleCron p t) := by
  unfold dismantleCron
  refine Quiet.bind (quiet_setCronTask p _) fun _ => ?_
  cases t.pending <;> simp only
  · exact quiet_destroyCont _
  · exact Quiet.bind (quiet_cancelArmed _ _ _) fun _ => quiet_destroyCont _

/-- Destroying a task already destroyed changes nothing. -/
theorem destroyCron_dead {w : World} {p : Nat} {t : CronTask} {g : Gate}
    (h : w.providers[p]? = some ⟨.cron t, g⟩) (hd : t.destroyed = true) (reason : String) :
    after (destroyCron p reason) w = w := by
  simp [destroyCron_eq, after_bind, cronTask_run, h, hd]

/-- Destroying a live task whose controller is a stand-in, or none, on a live continuation the
clock made, destroys the continuation, releases the stand-in and counts the destruction. -/
theorem destroyCron_live {w : World} {p : Nat} {t : CronTask} {g : Gate}
    (h : w.providers[p]? = some ⟨.cron t, g⟩) (hd : t.destroyed = false)
    (hc : t.controller = none ∨ ∃ f s, t.controller = some (.stub f) ∧ w.stubs[f]? = some s)
    (hl : w.clock.isDestroyed t.cont = false) (hv : 0 < t.cont ∧ t.cont ≤ w.clock.destroyed.size)
    (reason : String) :
    Destroys "crontask" reason t.cont t.controller w (after (destroyCron p reason) w) := by
  obtain ⟨hp, -⟩ := Array.getElem?_eq_some_iff.mp h
  obtain ⟨W, hW⟩ := dismantleCron_ok hp t
  have hq := quiet_dismantleCron p t w
  rw [after_of_ok hW] at hq
  -- The clock is the one the destroy leaves: the continuation destroyed after the cancel.
  have hclock := (destroyCron_effect h reason).2
  simp only [CronTask.destroyEffect, hd, Bool.false_eq_true, if_false] at hclock
  refine Destroys.of_settle hq hc ?_ (Clock.withdraw_sameConts w.clock t.pending) hl hv hclock
  simp [destroyCron_eq, after_bind, cronTask_run, h, hd, hW]

/-! ## Firing -/

/-- The part of a cron task's firing before its dispatch: it answers the task and the controller
to dispatch to, if it dispatches. -/
def cronFiringPrefix (p : Nat) : Sim (Option (CronTask × ControllerRef)) := do
  let t ← cronTask p
  if t.destroyed then return none
  setCronTask p { t with pending := none, next := Time.zero }
  match ← armCron p with
  | .ok () => pure ()
  | .error e =>
    log t.logger .error "failed to arm next activation" [Log.err e.message]
    count .armFailures ["crontask", t.name]
  let t ← cronTask p
  let some c := t.controller | return none
  count .timerFirings [t.name, "cron"]
  return some (t, c)

/-- The part of a cron task's firing from its dispatch on: a receiver that answers no destroys
it. -/
def cronFiringTail (dispatch : ControllerRef → Sim Bool) (p : Nat) (t : CronTask)
    (c : ControllerRef) : Sim Unit := do
  if ← dispatch c then return
  log t.logger .debug "receiver has died, destroying cron task"
  destroyCron p "consumer_gone"

/-- A firing is its part before the dispatch, then the dispatch and what follows it. -/
theorem fireCron_eq (dispatch : ControllerRef → Sim Bool) (p : Nat) :
    fireCron dispatch p = (cronFiringPrefix p >>= fun
      | none => pure ()
      | some (t, c) => cronFiringTail dispatch p t c) := by
  unfold fireCron cronFiringPrefix cronFiringTail
  simp only [bind_assoc]
  congr 1
  funext t
  split
  · simp
  · -- Both sides re-arm in the same steps; after that the firing dispatches where the prefix
    -- answers the controller.
    simp only [bind_assoc]
    congr 1
    funext _
    congr 1
    funext r
    cases r with
    | ok u =>
      simp only [bind_assoc]
      congr 1
      funext t'
      cases t'.controller <;> simp only [bind_assoc, pure_bind]
    | error e =>
      simp only [bind_assoc]
      congr 1
      funext _
      congr 1
      funext _
      congr 1
      funext t'
      cases t'.controller <;> simp only [bind_assoc, pure_bind]

theorem cronFiringPrefix_effect {w : World} {p : Nat} {t : CronTask} {g : Gate}
    (h : w.providers[p]? = some ⟨.cron t, g⟩) :
    ∃ W, (cronFiringPrefix p).run w = .ok (t.firingAnswer g w.clock) W ∧
      W.providers[p]? = some ⟨.cron (t.firingEffect g w.clock).1, (t.firingEffect g w.clock).2.1⟩ ∧
      W.clock = (t.firingEffect g w.clock).2.2 := by
  obtain ⟨hp, -⟩ := Array.getElem?_eq_some_iff.mp h
  by_cases hd : t.destroyed = true
  · simp [cronFiringPrefix, cronTask_run, h, CronTask.firingAnswer, CronTask.firingEffect, hd]
  simp only [cronFiringPrefix, run_bind, cronTask_run, h]
  rw [if_neg hd]
  simp only [run_bind, setCronTask_run, h]
  have h₁ : ({ w with providers := (w.providers.set! p
      { task := .cron { t with pending := none, next := Time.zero }, gate := g }) } :
        World).providers[p]? =
      some ⟨.cron { t with pending := none, next := Time.zero }, g⟩ := by simp [hp]
  obtain ⟨W, hW, hslot, hclock⟩ := armCron_effect h₁
  obtain ⟨hWp, hWv⟩ := Array.getElem?_eq_some_iff.mp hslot
  rw [hW]
  have hctl := CronTask.armEffect_frame { t with pending := none, next := Time.zero } g w.clock
  unfold CronTask.firingAnswer CronTask.firingEffect
  simp only [if_neg hd]
  rcases harm : ({ t with pending := none, next := Time.zero } : CronTask).armEffect g w.clock with
    ⟨a, t', g', k'⟩
  rw [harm] at hslot hclock hWv hctl
  simp only at hslot hclock hWv hctl ⊢
  have hc : t'.controller = t.controller := by rw [hctl]
  cases a <;> cases hcon : t.controller <;>
    simp [cronTask_run, hslot, hclock, hc, hcon, log_run, count_run, run_map]

theorem quiet_cronFiringPrefix (p : Nat) : Quiet (cronFiringPrefix p) := by
  unfold cronFiringPrefix
  refine Quiet.bind (quiet_cronTask p) fun t => ?_
  -- Counting firings and refused armings touches no series of destroyed providers.
  repeat' (first
    | exact quiet_pure _
    | refine Quiet.bind (quiet_cronTask _) fun _ => ?_
    | refine Quiet.bind (quiet_setCronTask _ _) fun _ => ?_
    | refine Quiet.bind (quiet_log _ _ _ _) fun _ => ?_
    | refine Quiet.bind (quiet_armCron _) fun _ => ?_
    | refine Quiet.bind (quiet_count (by decide) _) fun _ => ?_
    | exact quiet_count (by decide) _
    | dsimp only
    | split)

/-- After its dispatch answers, a firing is over on a yes; on a no it logs and destroys the task
for the consumer gone. -/
theorem after_cronFiringTail {dispatch : ControllerRef → Sim Bool} {c : ControllerRef}
    {W W₂ : World} {b : Bool} (hd : (dispatch c).run W = .ok b W₂) (p : Nat) (t : CronTask) :
    after (cronFiringTail dispatch p t c) W = if b then W₂ else
      after (destroyCron p Cause.consumerGone.reason)
        (after (log t.logger .debug "receiver has died, destroying cron task") W₂) := by
  cases b <;> simp [cronFiringTail, after_bind, hd, log_run, Cause.reason]

end Scenario

end HostDispatch
