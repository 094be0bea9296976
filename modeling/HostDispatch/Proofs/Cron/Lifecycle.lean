import HostDispatch.Proofs.Cron.Effects

/-!
# A cron task's life

A cron task run with stand-in controllers, destroyed by its owner at any time, fired by the clock
and answered by its controller, while other parties act on the clock. `Scenario.CronLife` is that
life as a relation between worlds, indexed by a trace of `Scenario.CronEvent`s: what its owner and
its controller see (Runs, the owner's Destroys, each dispatch with the answer to it), each arming
of its next activation with whether the task then holds one, and the cancels other parties count
on the clock. A dispatch runs the stand-in's script, in which the owner may run or destroy the task
again; the clock cannot fire there, since it is advancing.

A firing re-arms before it dispatches, so the activation a destroy cancels is the one the last
arming armed, also when the destroy comes from inside the receiver or after a no.
`Scenario.CronBooks` joins the task's invariant `CronTask.Holds`, the provider books
`Scenario.Ledger` and `Scenario.Shape`, and the clock's counts of cancels: the task's own cancels
are that one, and it counts no refused cancel. After an arming that leaves the task holding
nothing, it is never armed again and dispatches at most once more, in the firing that armed. Every
step of the relation keeps the books (`CronLife.books`). Main statement: `cron_task_cancels_once`.
-/

namespace HostDispatch

namespace CronTask

/-- What the provider books read of a cron task. -/
def view (t : CronTask) : Scenario.View := ⟨t.destroyed, t.ran, t.controller, t.cont⟩

theorem armEffect_view (t : CronTask) (g : Gate) (k : Clock) :
    (t.armEffect g k).2.1.view = t.view := by
  rw [armEffect_frame]
  rfl

/-- Running a task moves its view as a Run does, succeeding exactly when it keeps the
controller. -/
theorem runEffect_view (t : CronTask) (ctrl : Option Nat) (g : Gate) (k : Clock) :
    (t.runEffect (ctrl.map .stub) g k).1.view =
      t.view.afterRun ctrl (ctrl.isSome && !(t.destroyed || t.ran) &&
        (t.runEffect (ctrl.map .stub) g k).1.controller.isSome) := by
  cases ctrl with
  | none => simp [runEffect, view, Scenario.View.afterRun]
  | some f =>
    by_cases hdr : (t.destroyed || t.ran) = true
    · -- A task destroyed or already run is left as it is, and the Run fails.
      have hv : (t.runEffect (some (.stub f)) g k).1 = t := by simp [runEffect, hdr]
      simp only [Option.map_some, hv]
      simp only [Bool.or_eq_true] at hdr
      rcases hdr with hd | hr
      · simp [view, Scenario.View.afterRun, hd]
      · simp [view, Scenario.View.afterRun, hr]
    · simp only [Bool.or_eq_true, not_or, Bool.not_eq_true] at hdr
      obtain ⟨hd, hr⟩ := hdr
      have hv := armEffect_view { t with ran := true, controller := some (.stub f) } g k
      rcases harm : ({ t with ran := true, controller := some (.stub f) } : CronTask).armEffect g k
        with ⟨r, t', g', k'⟩
      rw [harm] at hv
      simp only [view, Scenario.View.mk.injEq] at hv
      obtain ⟨hvd, hvr, hvc, hvk⟩ := hv
      cases r with
      | ok u =>
        rw [Option.map_some, runEffect_of_arm_ok hd hr harm]
        simp [view, Scenario.View.afterRun, hd, hr, hvd, hvr, hvc, hvk]
      | error e =>
        rw [Option.map_some, runEffect_of_arm_error hd hr harm]
        simp [view, Scenario.View.afterRun, hd, hr, hvd, hvr, hvk]

theorem firingEffect_view (t : CronTask) (g : Gate) (k : Clock) :
    (t.firingEffect g k).1.view = t.view := by
  unfold firingEffect
  split
  · rfl
  · exact armEffect_view _ g k

theorem destroyEffect_view (t : CronTask) (k : Clock) :
    (t.destroyEffect k).1.view = if t.destroyed then t.view else t.view.dead := by
  unfold destroyEffect
  split <;> rfl

/-- An activation of a task due on the clock is the one it holds, a one-shot, on its live
continuation. -/
theorem Holds.due {t : CronTask} {k k' : Clock} {target : Time} {f : Firing} (h : t.Holds k)
    (ht : k.takeDue target = some (f, k')) (hf : f.cont = t.cont) :
    t.pending = some f.action ∧ f.kind = .once := by
  obtain ⟨rest, he, -⟩ := Clock.takeDue_pendingOn_self ht
  rw [hf, h.pending] at he
  cases hp : t.pending with
  | none => simp [hp] at he
  | some a =>
    simp only [hp, Option.toList_some, List.map_cons, List.map_nil, List.cons.injEq,
      Prod.mk.injEq] at he
    exact ⟨by rw [he.1.1], he.1.2.symm⟩

/-- A firing that dispatches is one of a live task, to the controller of the task it leaves. -/
theorem firingAnswer_eq_some {t t' : CronTask} {g : Gate} {k : Clock} {c : ControllerRef}
    (h : t.firingAnswer g k = some (t', c)) :
    t' = (t.firingEffect g k).1 ∧ t'.destroyed = false ∧ t'.controller = some c := by
  unfold firingAnswer at h
  split at h
  · cases h
  · rename_i hd
    obtain ⟨c', hc, hpair⟩ := Option.map_eq_some_iff.mp h
    cases hpair
    refine ⟨rfl, ?_, hc⟩
    have hv := congrArg Scenario.View.destroyed (firingEffect_view t g k)
    simpa [view, hd] using hv

end CronTask

namespace Scenario

/-! ## The trace of a cron task -/

/-- What the trace of a cron task records: what its owner and its controller see; each arming of
its next activation, with whether the task then holds one; and the cancels, and the refused
cancels, that other parties count on the clock. -/
inductive CronEvent where
  | life (e : LifeEvent)
  | armed (held : Bool)
  | aside (canceled misused : Nat)

namespace CronEvent

def life? : CronEvent → Option LifeEvent
  | life e => some e
  | _ => none

def armed? : CronEvent → Option Bool
  | armed b => some b
  | _ => none

/-- An arming that left the task holding nothing. -/
def fails : CronEvent → Bool
  | armed b => !b
  | _ => false

def canceled : CronEvent → Nat
  | aside c _ => c
  | _ => 0

def misused : CronEvent → Nat
  | aside _ m => m
  | _ => 0

@[simp] theorem life?_life (e : LifeEvent) : (life e).life? = some e := rfl

@[simp] theorem life?_armed (b : Bool) : (armed b).life? = none := rfl

@[simp] theorem life?_aside (c m : Nat) : (aside c m).life? = none := rfl

@[simp] theorem armed?_life (e : LifeEvent) : (life e).armed? = none := rfl

@[simp] theorem armed?_armed (b : Bool) : (armed b).armed? = some b := rfl

@[simp] theorem armed?_aside (c m : Nat) : (aside c m).armed? = none := rfl

@[simp] theorem fails_life (e : LifeEvent) : (life e).fails = false := rfl

@[simp] theorem fails_armed (b : Bool) : (armed b).fails = !b := rfl

@[simp] theorem fails_aside (c m : Nat) : (aside c m).fails = false := rfl

@[simp] theorem canceled_life (e : LifeEvent) : (life e).canceled = 0 := rfl

@[simp] theorem canceled_armed (b : Bool) : (armed b).canceled = 0 := rfl

@[simp] theorem canceled_aside (c m : Nat) : (aside c m).canceled = c := rfl

@[simp] theorem misused_life (e : LifeEvent) : (life e).misused = 0 := rfl

@[simp] theorem misused_armed (b : Bool) : (armed b).misused = 0 := rfl

@[simp] theorem misused_aside (c m : Nat) : (aside c m).misused = m := rfl

end CronEvent

/-- What the owner and the controller see of a cron task's trace. -/
def lives (es : List CronEvent) : List LifeEvent := es.filterMap CronEvent.life?

/-- The armings of a trace, each with whether the task then holds an activation. -/
def armings (es : List CronEvent) : List Bool := es.filterMap CronEvent.armed?

/-- Whether the last arming of a trace left the task holding an activation. -/
def held (es : List CronEvent) : Bool := (armings es).getLast?.getD false

/-- The cancels other parties counted along a trace. -/
def canceledAside : List CronEvent → Nat
  | [] => 0
  | e :: es => e.canceled + canceledAside es

/-- The refused cancels other parties counted along a trace. -/
def misusedAside : List CronEvent → Nat
  | [] => 0
  | e :: es => e.misused + misusedAside es

/-- Whether an arming of the trace left the task holding nothing. -/
def failed (es : List CronEvent) : Bool := es.any CronEvent.fails

/-- The part of a trace after its first arming that left the task holding nothing. -/
def afterFailure : List CronEvent → List CronEvent
  | [] => []
  | e :: es => if e.fails then es else afterFailure es

@[simp] theorem lives_nil : lives [] = [] := rfl

@[simp] theorem armings_nil : armings [] = [] := rfl

@[simp] theorem canceledAside_nil : canceledAside [] = 0 := rfl

@[simp] theorem misusedAside_nil : misusedAside [] = 0 := rfl

@[simp] theorem lives_append (es ds : List CronEvent) : lives (es ++ ds) = lives es ++ lives ds :=
  List.filterMap_append

@[simp] theorem armings_append (es ds : List CronEvent) :
    armings (es ++ ds) = armings es ++ armings ds :=
  List.filterMap_append

@[simp] theorem canceledAside_append (es ds : List CronEvent) :
    canceledAside (es ++ ds) = canceledAside es + canceledAside ds := by
  induction es with
  | nil => simp [canceledAside]
  | cons e es ih => simp [canceledAside, ih, Nat.add_assoc]

@[simp] theorem misusedAside_append (es ds : List CronEvent) :
    misusedAside (es ++ ds) = misusedAside es + misusedAside ds := by
  induction es with
  | nil => simp [misusedAside]
  | cons e es ih => simp [misusedAside, ih, Nat.add_assoc]

@[simp] theorem lives_cons (e : CronEvent) (es : List CronEvent) :
    lives (e :: es) = e.life?.toList ++ lives es := by
  cases e <;> rfl

@[simp] theorem canceledAside_cons (e : CronEvent) (es : List CronEvent) :
    canceledAside (e :: es) = e.canceled + canceledAside es := rfl

@[simp] theorem misusedAside_cons (e : CronEvent) (es : List CronEvent) :
    misusedAside (e :: es) = e.misused + misusedAside es := rfl

theorem held_append_of_armings_nil {es ds : List CronEvent} (h : armings ds = []) :
    held (es ++ ds) = held es := by
  simp [held, h]

theorem held_append_armed (es : List CronEvent) (b : Bool) : held (es ++ [.armed b]) = b := by
  simp [held, armings]

theorem afterFailure_of_not_failed {es : List CronEvent} (h : failed es = false) :
    afterFailure es = [] := by
  induction es with
  | nil => rfl
  | cons e es ih =>
    simp only [failed, List.any_cons, Bool.or_eq_false_iff] at h
    simp [afterFailure, h.1, ih h.2]

theorem afterFailure_append (es ds : List CronEvent) :
    afterFailure (es ++ ds) = if failed es then afterFailure es ++ ds else afterFailure ds := by
  induction es with
  | nil => simp [failed]
  | cons e es ih =>
    by_cases he : e.fails = true
    · simp [afterFailure, failed, he]
    · simp only [Bool.not_eq_true] at he
      simp [afterFailure, he, ih, failed]

theorem armings_ne_nil_of_failed {es : List CronEvent} (h : failed es = true) :
    armings es ≠ [] := by
  induction es with
  | nil => simp [failed] at h
  | cons e es ih =>
    cases e with
    | armed b => simp [armings]
    | life _ | aside _ _ => simpa [armings, failed] using ih (by simpa [failed] using h)

theorem armings_cons (e : CronEvent) (es : List CronEvent) :
    armings (e :: es) = e.armed?.toList ++ armings es := by
  cases e <;> rfl

/-- An event before the last arming does not change which arming is the last. -/
theorem held_cons {es : List CronEvent} (e : CronEvent) (h : armings es ≠ []) :
    held (e :: es) = held es := by
  cases hl : (armings es).getLast? with
  | none => exact absurd (List.getLast?_eq_none_iff.mp hl) h
  | some x => simp [held, armings_cons, List.getLast?_append, hl]

/-- Once an arming left the task holding nothing and no arming followed, the task holds nothing
by its last arming. -/
theorem held_of_failed {es : List CronEvent} (h : failed es = true)
    (hn : armings (afterFailure es) = []) : held es = false := by
  induction es with
  | nil => simp [failed] at h
  | cons e es ih =>
    by_cases he : e.fails = true
    · -- This is the first failed arming, and the last arming of all.
      simp only [afterFailure, he, if_true] at hn
      cases e with
      | armed b =>
        simp only [CronEvent.fails, Bool.not_eq_eq_eq_not, Bool.not_true] at he
        subst he
        simp [held, armings_cons, hn]
      | life _ | aside _ _ => simp at he
    · simp only [Bool.not_eq_true] at he
      have hr : failed es = true := by simpa [failed, he] using h
      simp only [afterFailure, he, Bool.false_eq_true, if_false] at hn
      rw [held_cons e (armings_ne_nil_of_failed hr)]
      exact ih hr hn

theorem failed_eq_false_of_armings_nil {es : List CronEvent} (h : armings es = []) :
    failed es = false := by
  cases hf : failed es
  · rfl
  · exact absurd h (armings_ne_nil_of_failed hf)

/-- A trace stays stopped after a failed arming as long as no arming and no dispatch is added. -/
theorem stopped_append {es ds : List CronEvent}
    (h : armings (afterFailure es) = [] ∧ dispatched (lives (afterFailure es)) ≤ 1)
    (ha : armings ds = []) (hd : dispatched (lives ds) = 0) :
    armings (afterFailure (es ++ ds)) = [] ∧ dispatched (lives (afterFailure (es ++ ds))) ≤ 1 := by
  rw [afterFailure_append]
  split
  · simp [h.1, ha, hd, h.2]
  · rw [afterFailure_of_not_failed (failed_eq_false_of_armings_nil ha)]
    exact ⟨rfl, Nat.zero_le 1⟩

/-- What follows any arming that left the task holding nothing follows the first such arming, so
a trace stopped after its first one is stopped after each. -/
theorem stopped_after {pre post : List CronEvent}
    (h : armings (afterFailure (pre ++ .armed false :: post)) = [] ∧
      dispatched (lives (afterFailure (pre ++ .armed false :: post))) ≤ 1) :
    armings post = [] ∧ dispatched (lives post) ≤ 1 := by
  rw [afterFailure_append] at h
  split at h
  · -- An earlier failure would leave this arming after it.
    simp [armings_cons] at h
  · simpa [afterFailure] using h

/-- After an arming, on a trace with no failed arming before it, nothing follows a failure yet. -/
theorem afterFailure_armed {es : List CronEvent} (h : failed es = false) (b : Bool) :
    afterFailure (es ++ [.armed b]) = [] := by
  rw [afterFailure_append, if_neg (by simp [h])]
  cases b <;> rfl

/-! ## A cron task's life -/

/-- The armings a Run makes: one, if it gets as far as arming the first activation. -/
def runArmings (t : CronTask) (ctrl : Option ControllerRef) (g : Gate) (k : Clock) :
    List CronEvent :=
  if ctrl.isSome && !(t.destroyed || t.ran) then [.armed (t.runEffect ctrl g k).1.pending.isSome]
  else []

/-- A cron task just made in slot `p`: live, not run, without a controller or an activation, on a
live continuation the clock made, with nothing pending on it. -/
def MadeCron (p : Nat) (w : World) : Prop :=
  ∃ t g, w.providers[p]? = some ⟨.cron t, g⟩ ∧ t.destroyed = false ∧ t.ran = false ∧
    t.controller = none ∧ t.pending = none ∧ w.clock.pendingOn t.cont = [] ∧
    w.clock.isDestroyed t.cont = false ∧ 0 < t.cont ∧ t.cont ≤ w.clock.destroyed.size

/-- The life of the cron task in slot `p` from one world to another, with its trace; `top` is
false inside the receiver of one of its own dispatches, where the clock is advancing and fires
nothing. The owner runs the task with a stand-in or with none, and destroys it. The clock takes one
of its activations: it drops the firing if the continuation is destroyed, and otherwise the task
re-arms and fires, without a dispatch when it keeps no controller, and else dispatching to the
stand-in, whose receiver lives a nested part of the task's life before the stand-in answers; a no
destroys the task. Anything else leaves the task alone, and the cancels and refused cancels it
counts on the clock are recorded. -/
inductive CronLife (p : Nat) : Bool → World → List CronEvent → World → Prop
  | nil {top : Bool} {w : World} : CronLife p top w [] w
  | run {top : Bool} {w w₁ w' : World} {es : List CronEvent} {t : CronTask} {g : Gate}
      (ctrl : Option Nat) {r : Except Fault Unit} :
      w.providers[p]? = some ⟨.cron t, g⟩ →
      (∀ f ∈ ctrl, f < w.stubs.size) → (runCron p (ctrl.map .stub)).run w = .ok r w₁ →
      CronLife p top w₁ es w' →
      CronLife p top w
        (.life (.run ctrl r.toBool) :: runArmings t (ctrl.map .stub) g w.clock ++ es) w'
  | destroy {top : Bool} {w w' : World} {es : List CronEvent} :
      CronLife p top (after (destroyCron p Cause.owner.reason) w) es w' →
      CronLife p top w (.life .destroy :: es) w'
  | drop {w w' : World} {es : List CronEvent} {t : CronTask} {g : Gate} (target : Time)
      {f : Firing} {k : Clock} :
      w.providers[p]? = some ⟨.cron t, g⟩ → w.clock.takeDue target = some (f, k) →
      f.cont = t.cont → k.isDestroyed f.cont = true →
      CronLife p true { w with clock := k } es w' → CronLife p true w es w'
  | silent {w W w' : World} {es : List CronEvent} {t : CronTask} {g : Gate} (target : Time)
      {f : Firing} {k : Clock} :
      w.providers[p]? = some ⟨.cron t, g⟩ → w.clock.takeDue target = some (f, k) →
      f.cont = t.cont → k.isDestroyed f.cont = false →
      (cronFiringPrefix p).run { w with clock := k } = .ok none W →
      CronLife p true W es w' →
      CronLife p true w (.armed (t.firingEffect g k).1.pending.isSome :: es) w'
  | fire {w W W₂ w' : World} {es inner : List CronEvent} {t t' : CronTask} {g : Gate}
      (target : Time) {f : Firing} {k : Clock} {fi : Nat} (n : Nat) {b : Bool} :
      w.providers[p]? = some ⟨.cron t, g⟩ → w.clock.takeDue target = some (f, k) →
      f.cont = t.cont → k.isDestroyed f.cont = false →
      (cronFiringPrefix p).run { w with clock := k } = .ok (some (t', .stub fi)) W →
      CronLife p false (after (stubCall fi) W) inner W₂ →
      (dispatch (n + 1) (.stub fi)).run W = .ok b W₂ →
      CronLife p true (after (fireCron (dispatch (n + 1)) p) { w with clock := k }) es w' →
      CronLife p true w
        (.armed t'.pending.isSome :: .life .dispatch :: inner ++ .life (.answer b) :: es) w'
  | elsewhere {top : Bool} {w w₁ w' : World} {es : List CronEvent} (dc dm : Nat) :
      Elsewhere p w w₁ → w₁.clock.stats.canceled = w.clock.stats.canceled + dc →
      w₁.clock.stats.cancelMisuse = w.clock.stats.cancelMisuse + dm →
      CronLife p top w₁ es w' → CronLife p top w (.aside dc dm :: es) w'

theorem lives_runArmings (t : CronTask) (ctrl : Option ControllerRef) (g : Gate) (k : Clock) :
    lives (runArmings t ctrl g k) = [] := by
  unfold runArmings
  split <;> rfl

/-- Inside a receiver the task is neither dispatched to nor answered. -/
theorem CronLife.inner {p : Nat} {top : Bool} {w w' : World} {es : List CronEvent}
    (h : CronLife p top w es w') (htop : top = false) :
    dispatched (lives es) = 0 ∧ replies (lives es) = [] := by
  induction h with
  | nil => exact ⟨rfl, rfl⟩
  | run ctrl _ _ _ _ ih =>
    obtain ⟨hd, hr⟩ := ih htop
    refine ⟨?_, ?_⟩
    · simpa [lives_runArmings, dispatched] using hd
    · simpa [lives_runArmings, replies, LifeEvent.reply] using hr
  | destroy _ ih =>
    obtain ⟨hd, hr⟩ := ih htop
    exact ⟨by simpa [dispatched] using hd,
      by simpa [replies, LifeEvent.reply] using hr⟩
  | drop => cases htop
  | silent => cases htop
  | fire => cases htop
  | elsewhere _ _ _ _ _ _ ih =>
    obtain ⟨hd, hr⟩ := ih htop
    exact ⟨by simpa using hd, by simpa using hr⟩

/-- What the cron task `t` keeps true of a world along its life from `w₀`: its invariant on the
clock, its books and the shape of its trace; it holds an activation exactly when it is live and
its last arming armed one, and none before it runs; the clock counts, besides other parties'
cancels, one cancel of the task's, when it is destroyed holding an activation, and no refused
cancel of the task's; and after a failed arming there is no arming and at most one dispatch. -/
structure CronAccount (w₀ : World) (top : Bool) (t : CronTask) (w : World)
    (es : List CronEvent) : Prop where
  holds : t.Holds w.clock
  ledger : Ledger "crontask" w₀ t.view w (lives es)
  shape : Shape top (lives es)
  holding : t.pending.isSome = (!t.destroyed && held es)
  unarmed : t.ran = false → armings es = []
  canceled : w.clock.stats.canceled = w₀.clock.stats.canceled + canceledAside es +
    if t.destroyed = true ∧ held es = true then 1 else 0
  misused : w.clock.stats.cancelMisuse = w₀.clock.stats.cancelMisuse + misusedAside es
  stopped : armings (afterFailure es) = [] ∧ dispatched (lives (afterFailure es)) ≤ 1

/-- The cron task in slot `p` keeps its account. -/
def CronBooks (p : Nat) (w₀ : World) (top : Bool) (w : World) (es : List CronEvent) : Prop :=
  ∃ t g, w.providers[p]? = some ⟨.cron t, g⟩ ∧ CronAccount w₀ top t w es

section Books

variable {p : Nat} {w₀ w w₁ : World} {top : Bool} {es : List CronEvent}

/-- A cron task just made starts its books with an empty trace. -/
theorem MadeCron.books (h : MadeCron p w₀) : CronBooks p w₀ true w₀ [] := by
  obtain ⟨t, g, hp, hd, -, hc, hn, hpend, hl, hv⟩ := h
  refine ⟨t, g, hp, {
    holds := CronTask.holds_of_none hn hpend (fun h' => absurd (hl.symm.trans h') (by simp))
    ledger := Ledger.start hd hc hl hv
    shape := Shape.nil
    holding := by simp [hn, held, armings]
    unarmed := fun _ => rfl
    canceled := by simp [canceledAside, hd]
    misused := by simp [misusedAside]
    stopped := ⟨rfl, Nat.zero_le 1⟩ }⟩

/-- A step of another party keeps the account, with the cancels it counts recorded by events that
are neither seen by the owner nor armings. -/
theorem CronAccount.elsewhere {t : CronTask} {g : Gate} (hp : w.providers[p]? = some ⟨.cron t, g⟩)
    (hacc : CronAccount w₀ top t w es) (ha : Elsewhere p w w₁) (ds : List CronEvent)
    (hl : lives ds = []) (har : armings ds = [])
    (hc : w₁.clock.stats.canceled = w.clock.stats.canceled + canceledAside ds)
    (hm : w₁.clock.stats.cancelMisuse = w.clock.stats.cancelMisuse + misusedAside ds) :
    CronAccount w₀ top t w₁ (es ++ ds) ∧ Tallied w w₁ := by
  have hf := ha.frame _ hp
  have hheld : held (es ++ ds) = held es := held_append_of_armings_nil har
  refine ⟨{
    holds := hacc.holds.aside ⟨ha.pending _ hp, hf.cont⟩
    ledger := by
      rw [lives_append, hl, List.append_nil]
      exact hacc.ledger.frame hf
    shape := by
      rw [lives_append, hl, List.append_nil]
      exact hacc.shape
    holding := by rw [hheld]; exact hacc.holding
    unarmed := fun h => by rw [armings_append, har, hacc.unarmed h]; rfl
    canceled := by rw [hc, hacc.canceled, canceledAside_append, hheld]; omega
    misused := by rw [hm, hacc.misused, misusedAside_append]; omega
    stopped := stopped_append hacc.stopped har (by simp [hl]) }, hf.stubs.tallied⟩

/-- An event the owner or the controller sees that leaves the task as it was and arms and cancels
nothing keeps the account, once it keeps the task's invariant, its books and its shape. -/
theorem CronAccount.life {t : CronTask} {w' : World} {top' : Bool} (hacc : CronAccount w₀ top t w es)
    {e : LifeEvent} (hdis : e ≠ .dispatch) (hholds : t.Holds w'.clock)
    (hledger : Ledger "crontask" w₀ t.view w' (lives es ++ [e]))
    (hshape : Shape top' (lives es ++ [e]))
    (hc : w'.clock.stats.canceled = w.clock.stats.canceled)
    (hm : w'.clock.stats.cancelMisuse = w.clock.stats.cancelMisuse) :
    CronAccount w₀ top' t w' (es ++ [.life e]) := by
  have hheld : held (es ++ [.life e]) = held es := held_append_of_armings_nil rfl
  have hlives : lives (es ++ [.life e]) = lives es ++ [e] := by simp
  exact {
    holds := hholds
    ledger := hlives ▸ hledger
    shape := hlives ▸ hshape
    holding := by rw [hheld]; exact hacc.holding
    unarmed := fun h => by rw [armings_append, hacc.unarmed h]; rfl
    canceled := by rw [hc, hacc.canceled, hheld]; simp
    misused := by rw [hm, hacc.misused]; simp
    stopped := stopped_append hacc.stopped rfl (by simp [dispatched, hdis]) }

/-- A Run keeps the account, and records whether it succeeded and the arming it made. -/
theorem CronAccount.run {t : CronTask} {g : Gate} (hp : w.providers[p]? = some ⟨.cron t, g⟩)
    (hacc : CronAccount w₀ top t w es) (ctrl : Option Nat) (hctrl : ∀ f ∈ ctrl, f < w.stubs.size)
    {r : Except Fault Unit} (hrun : (runCron p (ctrl.map .stub)).run w = .ok r w₁) :
    CronBooks p w₀ top w₁
        (es ++ .life (.run ctrl r.toBool) :: runArmings t (ctrl.map .stub) g w.clock) ∧
      Tallied w w₁ := by
  obtain ⟨hslot, hclock⟩ := runCron_effect hp (ctrl.map .stub)
  obtain ⟨hs, hm, hv⟩ := quiet_runCron p (ctrl.map .stub) w
  rw [after_of_ok hrun] at hslot hclock hs hm hv
  obtain ⟨hk, hcan⟩ := t.runEffect_sameConts (ctrl.map .stub) g w.clock
  rw [← hclock] at hk hcan
  have hf : Frame t.cont (fun _ => 0) (fun _ => 0) w w₁ := Frame.of_quiet hk ⟨hs, hm, hv⟩
  have hok := runCron_toBool hp hrun
  rw [Option.isSome_map] at hok
  have hview : (t.runEffect (ctrl.map .stub) g w.clock).1.view = t.view.afterRun ctrl r.toBool := by
    rw [CronTask.runEffect_view, hok]
  have hlives :
      lives (es ++ .life (.run ctrl r.toBool) :: runArmings t (ctrl.map .stub) g w.clock) =
        lives es ++ [.run ctrl r.toBool] := by
    simp [lives_runArmings]
  refine ⟨⟨_, _, hslot, ?_⟩, (Tally.of_stubs hs).tallied⟩
  have hholds := hclock ▸ hacc.holds.run (ctrl.map .stub) g
  have hledger : Ledger "crontask" w₀ (t.runEffect (ctrl.map .stub) g w.clock).1.view w₁
      (lives es ++ [.run ctrl r.toBool]) := by
    rw [hview]
    refine hacc.ledger.run ctrl r.toBool (fun h => ?_) hctrl hf
    rw [hok] at h
    simp only [Bool.and_eq_true, Bool.not_or, Bool.not_eq_true'] at h
    simp [CronTask.view, h.1.1, h.1.2.1, h.1.2.2]
  have hshape : Shape top (lives es ++ [.run ctrl r.toBool]) := hacc.shape.step (by simp) rfl
  cases harm : ((ctrl.map ControllerRef.stub).isSome && !(t.destroyed || t.ran)) with
  | false =>
    have hre := CronTask.runEffect_of_not_arming (g := g) (k := w.clock) harm
    have hnone : runArmings t (ctrl.map .stub) g w.clock = [] := by
      unfold runArmings
      rw [harm]
      rfl
    rw [hre] at hholds hledger ⊢
    rw [hnone]
    exact hacc.life (by simp) hholds hledger hshape hcan.1 hcan.2
  | true =>
    -- The Run arms the first activation of a task that never armed.
    have hone : runArmings t (ctrl.map .stub) g w.clock =
        [.armed (t.runEffect (ctrl.map .stub) g w.clock).1.pending.isSome] := by
      unfold runArmings
      rw [harm]
      rfl
    simp only [Option.isSome_map, Bool.and_eq_true, Bool.not_eq_true', Bool.or_eq_false_iff] at harm
    obtain ⟨hc, hd, hr⟩ := harm
    rw [hone] at hlives ⊢
    set t' := (t.runEffect (ctrl.map .stub) g w.clock).1 with ht'
    have hv' : t'.destroyed = false ∧ t'.ran = true := by
      simp only [CronTask.view, View.afterRun, hc, hd, hr, Bool.not_false, Bool.and_self,
        if_true, View.mk.injEq] at hview
      exact ⟨hview.1, hview.2.1⟩
    obtain ⟨hd', hr'⟩ := hv'
    have hheld : held (es ++ [.life (.run ctrl r.toBool), .armed t'.pending.isSome]) =
        t'.pending.isSome := by
      have h := held_append_armed (es ++ [.life (.run ctrl r.toBool)]) t'.pending.isSome
      rwa [List.append_assoc] at h
    have hfresh : failed es = false := failed_eq_false_of_armings_nil (hacc.unarmed hr)
    exact {
      holds := hholds
      ledger := hlives ▸ hledger
      shape := hlives ▸ hshape
      holding := by rw [hheld, hd']; rfl
      unarmed := fun h => absurd (hr'.symm.trans h) (by simp)
      canceled := by
        rw [hcan.1, hacc.canceled, hd, hd']
        simp
      misused := by rw [hcan.2, hacc.misused]; simp
      stopped := by
        rw [show es ++ [.life (.run ctrl r.toBool), .armed t'.pending.isSome] =
          (es ++ [.life (.run ctrl r.toBool)]) ++ [.armed t'.pending.isSome] by simp]
        rw [afterFailure_armed (by simpa [failed] using hfresh)]
        exact ⟨rfl, Nat.zero_le 1⟩ }

/-- Destroying the task, by its owner or after a no, for cause `c` and recorded as `e`, keeps the
books: a live task cancels the activation its last arming armed, if any, and ends with its cause;
one already destroyed is left as it is. -/
theorem CronBooks.ending (hb : CronBooks p w₀ top w es) {c : Cause} {e : LifeEvent}
    (hev : e.ends = some c) (hret : e.retains = none) (hdis : e ≠ .dispatch)
    (hrep : ∀ b, e.reply = some b → Owed w₀ w (lives es) b)
    (hun : retained (lives es) = none → e.reply = none)
    {top' : Bool} (hshape : Shape top' (lives es ++ [e])) :
    CronBooks p w₀ top' (after (destroyCron p c.reason) w) (es ++ [.life e]) ∧
      Tallied w (after (destroyCron p c.reason) w) := by
  obtain ⟨t, g, hp, hacc⟩ := hb
  obtain ⟨hslot, hclock⟩ := destroyCron_effect hp c.reason
  have hholds : (t.destroyEffect w.clock).1.Holds (after (destroyCron p c.reason) w).clock :=
    hclock ▸ hacc.holds.destroy
  obtain ⟨hcan, hmis⟩ := hacc.holds.destroy_stats
  rw [← hclock] at hcan hmis
  have hlives : lives (es ++ [.life e]) = lives es ++ [e] := by simp
  have hheld : held (es ++ [.life e]) = held es := held_append_of_armings_nil rfl
  have hstop := stopped_append hacc.stopped (show armings [.life e] = [] from rfl)
    (by simp [dispatched, hdis])
  have hunarmed : (t.destroyEffect w.clock).1.ran = false → armings (es ++ [.life e]) = [] := by
    intro h
    have hr : (t.destroyEffect w.clock).1.ran = t.ran := by
      unfold CronTask.destroyEffect
      split <;> rfl
    rw [armings_append, hacc.unarmed (hr ▸ h)]
    rfl
  cases hd : t.destroyed with
  | false =>
    have hw := destroyCron_live hp hd (hacc.ledger.controller_settles hd)
      (hacc.ledger.cont.trans hd) hacc.ledger.contValid c.reason
    have hview : (t.destroyEffect w.clock).1.view = t.view.dead := by
      rw [CronTask.destroyEffect_view, hd]
      rfl
    have hde : (t.destroyEffect w.clock).1.destroyed = true ∧
        (t.destroyEffect w.clock).1.pending = none := by
      simp [CronTask.destroyEffect, hd]
    -- The one cancel the destroy makes is of the activation the last arming armed.
    have hlen : t.pending.toList.length = if held es = true then 1 else 0 := by
      have h := hacc.holding
      rw [hd] at h
      cases hq : t.pending <;> simp_all
    refine ⟨⟨_, _, hslot, {
      holds := hholds
      ledger := by
        rw [hlives, hview]
        exact hacc.ledger.ending_live hd hev hret hdis
          (fun b hb => (hrep b hb).tallied hacc.ledger.stub hw.stubs.tallied) hun hw
      shape := hlives ▸ hshape
      holding := by simp [hde.1, hde.2]
      unarmed := hunarmed
      canceled := by
        rw [hcan, hacc.canceled, hlen, hheld, hd, hde.1]
        simp
      misused := by
        rw [hmis, hacc.misused]
        simp
      stopped := hstop }⟩, hw.stubs.tallied⟩
  | true =>
    have hw : after (destroyCron p c.reason) w = w := destroyCron_dead hp hd c.reason
    have hte : (t.destroyEffect w.clock).1 = t := by simp [CronTask.destroyEffect, hd]
    rw [hte] at hslot hholds
    have hf : Frame t.cont (fun _ => 0) (fun _ => 0) w (after (destroyCron p c.reason) w) :=
      Frame.of_quiet (by rw [hw]; exact ⟨rfl, rfl⟩) (by rw [hw]; exact ⟨rfl, rfl, fun _ => rfl⟩)
    refine ⟨⟨_, _, hslot, hacc.life hdis hholds ?_ hshape (by rw [hw]) (by rw [hw])⟩,
      hf.stubs.tallied⟩
    exact hacc.ledger.ending_dead hd hret hdis
      (fun b hb => (hrep b hb).tallied hacc.ledger.stub hf.stubs.tallied) hun hf

/-- A firing of the task's activation, up to its dispatch, keeps its account and records the
arming it makes. The task held the activation, so its last arming armed one and none failed
before: nothing follows a failure yet. -/
theorem CronAccount.fire {t : CronTask} {g : Gate} (hp : w.providers[p]? = some ⟨.cron t, g⟩)
    (hacc : CronAccount w₀ true t w es) {target : Time} {f : Firing} {k : Clock}
    (ht : w.clock.takeDue target = some (f, k)) (hf : f.cont = t.cont)
    {a : Option (CronTask × ControllerRef)} {W : World}
    (hrun : (cronFiringPrefix p).run { w with clock := k } = .ok a W) :
    a = t.firingAnswer g k ∧
      W.providers[p]? = some ⟨.cron (t.firingEffect g k).1, (t.firingEffect g k).2.1⟩ ∧
      CronAccount w₀ true (t.firingEffect g k).1 W
        (es ++ [.armed (t.firingEffect g k).1.pending.isSome]) ∧
      afterFailure (es ++ [.armed (t.firingEffect g k).1.pending.isSome]) = [] ∧
      Tallied w W := by
  obtain ⟨W', hrun', hslot, hclock⟩ := cronFiringPrefix_effect (w := { w with clock := k }) hp
  rw [hrun] at hrun'
  obtain ⟨rfl, rfl⟩ : a = t.firingAnswer g k ∧ W = W' := by
    cases hrun'
    exact ⟨rfl, rfl⟩
  obtain ⟨hs, hm, hv⟩ := quiet_cronFiringPrefix p { w with clock := k }
  rw [after_of_ok hrun] at hs hm hv
  have hs' : W.stubs = w.stubs := hs
  obtain ⟨hpend, -⟩ := hacc.holds.due ht hf
  obtain ⟨hr, hd, -⟩ := hacc.holds.alive hpend
  obtain ⟨hk₁, hc₁⟩ := t.firingEffect_sameConts g k
  have hk : Clock.SameConts w.clock W.clock :=
    hclock ▸ (Clock.takeDue_sameConts ht).trans hk₁
  have hcan : Clock.SameCancels w.clock W.clock :=
    hclock ▸ (Clock.takeDue_sameCancels ht).trans hc₁
  have hframe : Frame t.cont (fun _ => 0) (fun _ => 0) w W := Frame.of_quiet hk ⟨hs', hm, hv⟩
  have hheld : held es = true := by
    have h := hacc.holding
    simp only [hpend, Option.isSome_some, hd, Bool.not_false, Bool.true_and] at h
    exact h.symm
  have hfresh : failed es = false := by
    cases hfl : failed es
    · rfl
    · rw [held_of_failed hfl hacc.stopped.1] at hheld
      cases hheld
  have hview := t.firingEffect_view g k
  have hv' : (t.firingEffect g k).1.destroyed = false ∧ (t.firingEffect g k).1.ran = true := by
    simp only [CronTask.view, View.mk.injEq] at hview
    exact ⟨hview.1.trans hd, hview.2.1.trans hr⟩
  have hlives : lives (es ++ [.armed (t.firingEffect g k).1.pending.isSome]) = lives es := by
    simp
  refine ⟨rfl, hslot, {
    holds := hclock ▸ hacc.holds.fire ht hf g
    ledger := by
      rw [hlives, hview]
      exact hacc.ledger.frame hframe
    shape := by
      rw [hlives]
      exact hacc.shape
    holding := by rw [held_append_armed, hv'.1]; rfl
    unarmed := fun h => absurd (hv'.2.symm.trans h) (by simp)
    canceled := by
      rw [hcan.1, hacc.canceled, hd, hv'.1]
      simp
    misused := by
      rw [hcan.2, hacc.misused]
      simp
    stopped := by
      rw [afterFailure_armed hfresh]
      exact ⟨rfl, Nat.zero_le 1⟩ }, afterFailure_armed hfresh _, (Tally.of_stubs hs').tallied⟩

/-- A dispatch to the stand-in of the live task counts once and opens a receiver's part of its
life; it is the one dispatch a failed arming just before it allows. -/
theorem CronAccount.enter {t : CronTask} {g : Gate} (hp : w.providers[p]? = some ⟨.cron t, g⟩)
    (hacc : CronAccount w₀ true t w es) (hd : t.destroyed = false) {fi : Nat}
    (hc : t.controller = some (.stub fi)) (hfresh : afterFailure es = []) :
    CronBooks p w₀ false (after (stubCall fi) w) (es ++ [.life .dispatch]) ∧
      Tallied w (after (stubCall fi) w) := by
  have hre := hacc.ledger.retained_of_controller hd hc
  have hlt := hacc.ledger.stub fi hre
  have hs : w.stubs[fi]? = some w.stubs[fi] := Array.getElem?_eq_getElem hlt
  obtain ⟨-, hprov, hclock, -, -⟩ := stubCall_run hs
  have hframe : Frame t.cont (fun _ => 0) (fun g => if g = fi then 1 else 0) w
      (after (stubCall fi) w) := frame_stubCall hs
  have hlives : lives (es ++ [.life .dispatch]) = lives es ++ [.dispatch] := by
    simp
  have hheld : held (es ++ [.life .dispatch]) = held es := held_append_of_armings_nil rfl
  refine ⟨⟨t, g, hprov ▸ hp, {
    holds := by rw [hclock]; exact hacc.holds
    ledger := by
      rw [hlives]
      exact hacc.ledger.enter hd hc hframe
    shape := by
      rw [hlives]
      exact hacc.shape.enter (hacc.ledger.cause_eq_none hd)
    holding := by rw [hheld]; exact hacc.holding
    unarmed := fun h => by rw [armings_append, hacc.unarmed h]; rfl
    canceled := by
      rw [hclock, hacc.canceled, hheld]
      simp
    misused := by
      rw [hclock, hacc.misused]
      simp
    stopped := by
      rw [afterFailure_append]
      split
      · rw [hfresh]
        simp [armings, dispatched]
      · simp [afterFailure] }⟩, hframe.stubs.tallied⟩

theorem CronBooks.shape (hb : CronBooks p w₀ top w es) : Shape top (lives es) := by
  obtain ⟨_, _, _, hacc⟩ := hb
  exact hacc.shape

/-- The stand-in's answer closes the dispatch: a yes keeps the books, and a no destroys the task
for the consumer gone, unless its receiver destroyed it already. -/
theorem CronBooks.answer (hb : CronBooks p w₀ false w es) (fi : Nat)
    (hr : retained (lives es) = some fi) {b : Bool} (howed : Owed w₀ w (lives es) b)
    (l : Log.Logger) :
    CronBooks p w₀ true (if b then w else after (destroyCron p Cause.consumerGone.reason)
        (after (log l .debug "receiver has died, destroying cron task") w))
        (es ++ [.life (.answer b)]) ∧
      Tallied w (if b then w else after (destroyCron p Cause.consumerGone.reason)
        (after (log l .debug "receiver has died, destroying cron task") w)) := by
  obtain ⟨t, g, hp, hacc⟩ := hb
  cases b with
  | true =>
    rw [if_pos rfl]
    refine ⟨⟨t, g, hp, hacc.life (by simp) hacc.holds ?_ (hacc.shape.leave true) rfl rfl⟩,
      Tallied.refl w⟩
    exact hacc.ledger.answerYes hr fun s hs => (howed fi s hr hs).symm
  | false =>
    rw [if_neg Bool.false_ne_true]
    have hlog := elsewhere_log p l .debug "receiver has died, destroying cron task" [] w
    obtain ⟨hacc₁, ht₁⟩ := hacc.elsewhere hp hlog [] rfl rfl
      (by simp) (by simp)
    rw [List.append_nil] at hacc₁
    obtain ⟨hb₂, ht₂⟩ := CronBooks.ending ⟨t, g, hlog.slot.trans hp, hacc₁⟩ (e := .answer false)
      (c := .consumerGone) rfl rfl (by simp)
      (fun b hb => by
        cases hb
        exact howed.tallied hacc.ledger.stub ht₁)
      (fun hn => by rw [hr] at hn; cases hn) (hacc.shape.leave false)
    exact ⟨hb₂, ht₁.trans ht₂⟩

/-- The answer a dispatch returns is the one the stand-in owes: its answer to the dispatch after
all those answered before, whatever its receiver did meanwhile. -/
theorem CronAccount.owed {t : CronTask} (hacc : CronAccount w₀ true t w es)
    (hd : t.destroyed = false) {fi : Nat} (hc : t.controller = some (.stub fi))
    {inner : List CronEvent} (hin : replies (lives inner) = []) {n : Nat} {b : Bool} {W₂ : World}
    (hdisp : (dispatch (n + 1) (.stub fi)).run w = .ok b W₂) (ht : Tallied w W₂) :
    Owed w₀ W₂ (lives (es ++ [.life .dispatch] ++ inner)) b := by
  have hre := hacc.ledger.retained_of_controller hd hc
  refine hacc.ledger.owed hacc.shape hre (by simp [retained_append, hre]) ?_ hdisp ht
  simp only [lives_append, replies_append, hin, List.append_nil]
  simp [replies, LifeEvent.reply]

/-- Every part of the task's life keeps its books, and the tallies only grow along it. -/
theorem CronLife.books {w w' : World} {es : List CronEvent} (hl : CronLife p top w es w')
    {es₀ : List CronEvent} (hb : CronBooks p w₀ top w es₀) :
    CronBooks p w₀ top w' (es₀ ++ es) ∧ Tallied w w' := by
  induction hl generalizing es₀ with
  | nil => exact ⟨by simpa using hb, Tallied.refl _⟩
  | run ctrl hp hctrl hrun _ ih =>
    obtain ⟨t₀, g₀, hp₀, hacc⟩ := hb
    obtain ⟨rfl, rfl⟩ : _ ∧ _ := by simpa [hp] using hp₀
    obtain ⟨hb₁, ht₁⟩ := hacc.run hp ctrl hctrl hrun
    obtain ⟨hb', ht'⟩ := ih hb₁
    exact ⟨by simpa using hb', ht₁.trans ht'⟩
  | destroy _ ih =>
    obtain ⟨hb₁, ht₁⟩ := hb.ending (e := .destroy) (c := .owner) rfl rfl (by simp)
      (fun b hb => by cases hb) (fun _ => rfl) (hb.shape.step (by simp) rfl)
    obtain ⟨hb', ht'⟩ := ih hb₁
    exact ⟨by simpa using hb', ht₁.trans ht'⟩
  | drop _ hp ht hf hdes _ _ =>
    -- The task's continuation is live while it holds the activation due, so no firing is dropped.
    obtain ⟨t₀, g₀, hp₀, hacc⟩ := hb
    obtain ⟨rfl, rfl⟩ : _ ∧ _ := by simpa [hp] using hp₀
    obtain ⟨hpend, -⟩ := hacc.holds.due ht hf
    have hlive : _ = false := (Clock.isDestroyed_congr (Clock.takeDue_destroyed ht) _).trans
      (hacc.holds.alive hpend).2.2
    rw [← hf, hdes] at hlive
    cases hlive
  | silent _ hp ht hf _ hrun _ ih =>
    obtain ⟨t₀, g₀, hp₀, hacc⟩ := hb
    obtain ⟨rfl, rfl⟩ : _ ∧ _ := by simpa [hp] using hp₀
    obtain ⟨-, hslot, hacc₁, -, ht₁⟩ := hacc.fire hp ht hf hrun
    obtain ⟨hb', ht'⟩ := ih ⟨_, _, hslot, hacc₁⟩
    exact ⟨by simpa using hb', ht₁.trans ht'⟩
  | @fire _ _ _ _ _ inner _ _ _ _ _ _ fi _ _ hp ht hf _ hrun hinner hdisp _ ihinner ihrest =>
    obtain ⟨t₀, g₀, hp₀, hacc⟩ := hb
    obtain ⟨rfl, rfl⟩ : _ ∧ _ := by simpa [hp] using hp₀
    obtain ⟨ha, hslot, hacc₁, hfresh, ht₁⟩ := hacc.fire hp ht hf hrun
    obtain ⟨rfl, hd, hc⟩ := CronTask.firingAnswer_eq_some ha.symm
    -- The dispatch opens the receiver's part of the life, which the stand-in's answer closes.
    obtain ⟨hb₂, ht₂⟩ := hacc₁.enter hslot hd hc hfresh
    obtain ⟨hb₃, ht₃⟩ := ihinner hb₂
    have howed := hacc₁.owed hd hc (hinner.inner rfl).2 hdisp (ht₂.trans ht₃)
    have hre : retained (lives es₀) = some fi := by
      simpa using hacc₁.ledger.retained_of_controller hd hc
    obtain ⟨hb₄, ht₄⟩ := hb₃.answer fi (by simp [retained_append, hre]) howed _
    rw [fireCron_eq, after_bind_ok hrun] at ihrest
    dsimp only at ihrest
    rw [after_cronFiringTail hdisp] at ihrest
    obtain ⟨hb', ht'⟩ := ihrest hb₄
    exact ⟨by simpa using hb', ht₁.trans (ht₂.trans (ht₃.trans (ht₄.trans ht')))⟩
  | elsewhere dc dm ha hc hm _ ih =>
    obtain ⟨t₀, g₀, hp₀, hacc⟩ := hb
    obtain ⟨hacc₁, ht₁⟩ := hacc.elsewhere hp₀ ha [.aside dc dm] rfl rfl
      (by simp [hc]) (by simp [hm])
    obtain ⟨hb', ht'⟩ := ih ⟨t₀, g₀, ha.slot.trans hp₀, hacc₁⟩
    exact ⟨by simpa using hb', ht₁.trans ht'⟩

end Books

/-- **A cron task cancels only what it holds, and is destroyed once.** Along any life of a cron task
at most one action is pending on its continuation, its only cancel is of the activation it holds
when it is destroyed, and it is destroyed, released and silenced once, as a timer is. -/
theorem cron_task_cancels_once {p : Nat} {w₀ w : World} {es : List CronEvent}
    (h₀ : MadeCron p w₀) (hl : CronLife p true w₀ es w) :
    ∃ t g, w.providers[p]? = some ⟨.cron t, g⟩ ∧
      w.clock.stats.cancelMisuse = w₀.clock.stats.cancelMisuse + misusedAside es ∧
      (w.clock.pendingOn t.cont).length ≤ 1 ∧
      (t.destroyed = true → w.clock.pendingOn t.cont = []) ∧
      t.destroyed = (cause (lives es)).isSome ∧
      w.clock.isDestroyed t.cont = t.destroyed ∧
      w.clock.stats.destroyed = w₀.clock.stats.destroyed + (if t.destroyed then 1 else 0) ∧
      (∀ f, w.releasesOf f =
        w₀.releasesOf f + if t.destroyed ∧ retained (lives es) = some f then 1 else 0) ∧
      dispatched (fromEnd (lives es)) = 0 ∧
      (false ∈ replies (lives es) → t.destroyed = true) ∧
      w.clock.stats.canceled =
        w₀.clock.stats.canceled + canceledAside es + (t.destroyed && held es).toNat ∧
      (∀ pre post, es = pre ++ .armed false :: post →
        armings post = [] ∧ dispatched (lives post) ≤ 1) := by
  obtain ⟨⟨t, g, hp, hacc⟩, -⟩ := hl.books h₀.books
  have hl := hacc.ledger
  have hcan : w.clock.stats.canceled =
      w₀.clock.stats.canceled + canceledAside es + (t.destroyed && held es).toNat := by
    rw [hacc.canceled, List.nil_append]
    cases t.destroyed <;> cases held es <;> rfl
  refine ⟨t, g, hp, hacc.misused, hacc.holds.pendingOn_length_le,
    fun hd => hacc.holds.pendingOn_eq_nil (hacc.holds.destroyed hd), hl.destroyed, hl.cont,
    hl.conts, hl.releases, hacc.shape.afterEnd,
    fun hno => hl.destroyed.trans (cause_isSome_of_reply_false hno), hcan, ?_⟩
  rintro pre post rfl
  exact stopped_after hacc.stopped

/-- A cron task firing every second, run at the epoch with a stand-in that answers no, and fired a
second later: the firing re-arms, dispatches once, and the no destroys the task, cancelling the
activation just armed. -/
theorem every_second_cron_answered_no_cancels_once :
    let w₀ : World :=
      { clock := { now := Time.epoch, destroyed := #[false] },
        providers := #[{ task := .cron { name := "tick", expr := "@every 1s",
                                         schedule := .every 1000000000, zone := Zone.utc,
                                         cont := 1, logger := {} } }],
        stubs := #[{ answers := [false], script := [] }] }
    let w₁ := after (runCron 0 (some (.stub 0))) w₀
    let due := (w₁.clock.takeDue (Time.epoch.add 1000000000)).get!
    let w := after (fireCron (dispatch 2) 0) { w₁ with clock := due.2 }
    let es := [CronEvent.life (.run (some 0) true), .armed true, .armed true, .life .dispatch,
      .life (.answer false)]
    MadeCron 0 w₀ ∧ CronLife 0 true w₀ es w ∧
      ∃ t g, w.providers[0]? = some ⟨.cron t, g⟩ ∧
        w.clock.stats.cancelMisuse = w₀.clock.stats.cancelMisuse + misusedAside es ∧
        (w.clock.pendingOn t.cont).length ≤ 1 ∧
        (t.destroyed = true → w.clock.pendingOn t.cont = []) ∧
        t.destroyed = (cause (lives es)).isSome ∧
        w.clock.isDestroyed t.cont = t.destroyed ∧
        w.clock.stats.destroyed = w₀.clock.stats.destroyed + (if t.destroyed then 1 else 0) ∧
        (∀ f, w.releasesOf f =
          w₀.releasesOf f + if t.destroyed ∧ retained (lives es) = some f then 1 else 0) ∧
        dispatched (fromEnd (lives es)) = 0 ∧
        (false ∈ replies (lives es) → t.destroyed = true) ∧
        w.clock.stats.canceled =
          w₀.clock.stats.canceled + canceledAside es + (t.destroyed && held es).toNat ∧
        (∀ pre post, es = pre ++ .armed false :: post →
          armings post = [] ∧ dispatched (lives post) ≤ 1) := by
  intro w₀ w₁ due w es
  suffices h : MadeCron 0 w₀ ∧ CronLife 0 true w₀ es w from
    ⟨h.1, h.2, cron_task_cancels_once h.1 h.2⟩
  -- the trace is matched after the steps, since its armings are read off the worlds they reach
  dsimp only [w₀, w₁, due, w, es]
  refine ⟨⟨_, _, rfl, rfl, rfl, rfl, rfl, rfl, rfl, by decide, by decide⟩,
    (congrArg (fun es => CronLife 0 true _ es _) ?_).mp
      (.run (some 0) (r := .ok ()) rfl ?_ rfl
        (.fire (Time.epoch.add 1000000000) 1 rfl rfl rfl rfl rfl .nil
          (dispatch_unscripted_run (n := 0) (s := { answers := [false], script := [] }) rfl rfl)
          .nil))⟩
  · rfl
  decide

end Scenario

end HostDispatch
