import HostDispatch.Proofs.Metrics.Series
import HostDispatch.Proofs.Scheduler.Destroyed
import HostDispatch.Scenario.Run

/-!
# A provider's life as its owner and its controller see it

A timer and a cron task live the same life: their owner runs them with a controller and may
destroy them at any time, even from inside a dispatch; each firing dispatches to the controller,
and a controller that answers no has them destroy themselves. This module holds what the two
share.

The owner and the controller see a trace of `LifeEvent`s. The trace says which Run succeeded and
which stand-in it retained (`retained`), what caused the first destruction (`cause`), how many
dispatches were made (`dispatched`) and what the controller answered (`replies`). The stand-ins
keep tallies of their dispatches and releases (`Tally`), and the registry counts destroyed
providers by reason.

`Books` is what a provider keeps true of all this, relative to the world its trace started in:
it is destroyed exactly when its trace has a cause, and then its continuation is destroyed and the
destruction counted once; the stand-in its Run retained is released once it is destroyed and
never otherwise, and has been dispatched to once per dispatch in the trace; the answers it gave are
its own, in order, all yes but possibly the last; nothing is dispatched from the first destroying
event on. Each way a provider moves keeps `Books`: `Books.frame`, `Books.run`, `Books.destroy`,
`Books.enter` and `Books.leave`.
-/

namespace HostDispatch

/-! ## The continuations a clock keeps -/

namespace Clock

theorem withdraw_sameConts (k : Clock) (a : Option Nat) : SameConts k (k.withdraw a) := by
  cases a with
  | none => exact ⟨rfl, rfl⟩
  | some a => exact cancel_sameConts k (some a)

end Clock

theorem Gate.arm_sameConts (g : Gate) (k : Clock) (cont : Nat) (kind : Kind) (d : Int) :
    Clock.SameConts k (g.arm k cont kind d).2.2 := by
  rcases h : g.arm k cont kind d with ⟨r, g', k'⟩
  cases r with
  | ok a => exact Clock.schedule_sameConts (Gate.arm_ok h).1
  | error e =>
    obtain ⟨rfl, -⟩ := Gate.arm_error h
    exact ⟨rfl, rfl⟩

namespace Scenario

/-- What causes a provider's destruction: its owner, or a controller whose consumer is gone. -/
inductive Cause where
  | owner
  | consumerGone
deriving DecidableEq

/-- The reason a destruction is recorded under. -/
def Cause.reason : Cause → String
  | .owner => "owner"
  | .consumerGone => "consumer_gone"

theorem Cause.reason_inj {c c' : Cause} : c.reason = c'.reason ↔ c = c' := by
  cases c <;> cases c' <;> decide

/-- What a provider's owner and its controller see of it. -/
inductive LifeEvent where
  /-- A Run with a stand-in (or with none), and whether it succeeded. -/
  | run (stub : Option Nat) (ok : Bool)
  /-- The owner's Destroy. -/
  | destroy
  /-- A dispatch to the controller. -/
  | dispatch
  /-- The controller's answer to a dispatch: whether its consumer is still there. -/
  | answer (alive : Bool)
deriving DecidableEq

namespace LifeEvent

/-- The destruction an event asks for: the owner's Destroy, or a controller that answers no. -/
def ends : LifeEvent → Option Cause
  | .destroy => some .owner
  | .answer false => some .consumerGone
  | _ => none

/-- The stand-in a successful Run retains. -/
def retains : LifeEvent → Option Nat
  | .run (some f) true => some f
  | _ => none

/-- The answer an event gives. -/
def reply : LifeEvent → Option Bool
  | .answer b => some b
  | _ => none

end LifeEvent

open LifeEvent

/-- The cause of the first destruction. -/
def cause (cs : List LifeEvent) : Option Cause := cs.findSome? ends

/-- The stand-in retained by the Run that succeeded. -/
def retained (cs : List LifeEvent) : Option Nat := cs.findSome? retains

/-- The number of dispatches. -/
def dispatched (cs : List LifeEvent) : Nat := cs.count .dispatch

/-- The controller's answers, in order. -/
def replies (cs : List LifeEvent) : List Bool := cs.filterMap reply

/-- The trace from its first destroying event on. -/
def fromEnd (cs : List LifeEvent) : List LifeEvent := cs.dropWhile fun e => e.ends.isNone

@[simp] theorem cause_nil : cause [] = none := rfl
@[simp] theorem retained_nil : retained [] = none := rfl
@[simp] theorem dispatched_nil : dispatched [] = 0 := rfl
@[simp] theorem replies_nil : replies [] = [] := rfl

theorem cause_append (cs ds : List LifeEvent) : cause (cs ++ ds) = (cause cs).or (cause ds) :=
  List.findSome?_append

theorem retained_append (cs ds : List LifeEvent) :
    retained (cs ++ ds) = (retained cs).or (retained ds) :=
  List.findSome?_append

@[simp] theorem dispatched_append (cs ds : List LifeEvent) :
    dispatched (cs ++ ds) = dispatched cs + dispatched ds :=
  List.count_append

@[simp] theorem replies_append (cs ds : List LifeEvent) :
    replies (cs ++ ds) = replies cs ++ replies ds :=
  List.filterMap_append

@[simp] theorem cause_single (e : LifeEvent) : cause [e] = e.ends := by
  unfold cause
  simp only [List.findSome?_cons, List.findSome?_nil]
  cases e.ends <;> rfl

@[simp] theorem retained_single (e : LifeEvent) : retained [e] = e.retains := by
  unfold retained
  simp only [List.findSome?_cons, List.findSome?_nil]
  cases e.retains <;> rfl

@[simp] theorem dispatched_single (e : LifeEvent) :
    dispatched [e] = if e = .dispatch then 1 else 0 := by
  by_cases h : e = .dispatch <;> simp [dispatched, h]

@[simp] theorem replies_single (e : LifeEvent) : replies [e] = e.reply.toList := by
  cases h : e.reply <;> simp [replies, h]

/-- A trace with no destroying event has nothing from its end on; one with a destroying event
keeps what follows. -/
theorem fromEnd_append (cs ds : List LifeEvent) :
    fromEnd (cs ++ ds) = if cause cs = none then fromEnd ds else fromEnd cs ++ ds := by
  unfold fromEnd
  by_cases h : cause cs = none
  · have hall : ∀ e ∈ cs, e.ends.isNone = true := fun e he => by
      simpa using List.findSome?_eq_none_iff.mp h e he
    rw [if_pos h, List.dropWhile_append_of_pos hall]
  · -- The first destroying event stays, so the trace from it on is not empty.
    have hall : cs.all (fun e => e.ends.isNone) = false := by
      rw [Bool.eq_false_iff]
      intro hall
      exact h (List.findSome?_eq_none_iff.mpr fun e he => by
        simpa using List.all_eq_true.mp hall e he)
    have hany := List.any_dropWhile (l := cs) (p := fun e => e.ends.isNone)
    rw [hall] at hany
    cases hd : cs.dropWhile (fun e => e.ends.isNone) with
    | nil => simp [hd] at hany
    | cons _ _ =>
      rw [if_neg h, List.dropWhile_append, hd]
      rfl

/-- An answer no is a destroying event, so a trace that holds one has a cause. -/
theorem cause_isSome_of_reply_false {cs : List LifeEvent} (h : false ∈ replies cs) :
    (cause cs).isSome = true := by
  obtain ⟨e, he, hr⟩ := List.mem_filterMap.mp h
  have hend : e.ends = some .consumerGone := by
    cases e <;> simp_all [reply, ends]
  simp only [cause, List.findSome?_isSome_iff]
  exact ⟨e, he, by simp [hend]⟩

/-- The cause is the consumer's going only if some answer was no. -/
theorem reply_false_of_cause {cs : List LifeEvent} (h : cause cs = some .consumerGone) :
    false ∈ replies cs := by
  obtain ⟨l₁, e, l₂, rfl, he, -⟩ := List.findSome?_eq_some_iff.mp h
  have hr : e = .answer false := by
    cases e with
    | answer b => cases b <;> simp_all [ends]
    | _ => simp [ends] at he
  simp [replies, hr, reply]

/-! ## The stand-ins' tallies -/

namespace World

/-- How often a stand-in was released; none for one not made. -/
def releasesOf (w : World) (f : Nat) : Nat := (w.stubs[f]?.map (·.releases)).getD 0

/-- How often a stand-in was dispatched to; never for one not made. -/
def dispatchesOf (w : World) (f : Nat) : Nat := (w.stubs[f]?.map (·.dispatches)).getD 0

end World

/-- How the stand-ins' tallies move from one world to another: each by `dr` releases and `dd`
dispatches. Every stand-in keeps its answers, and none goes away. -/
structure Tally (dr dd : Nat → Nat) (w w' : World) : Prop where
  releases : ∀ f, w'.releasesOf f = w.releasesOf f + dr f
  dispatches : ∀ f, w'.dispatchesOf f = w.dispatchesOf f + dd f
  answers : ∀ (f : Nat) (s : Stub), w.stubs[f]? = some s → (w'.stubs[f]?).map Stub.answers = some s.answers
  size : w.stubs.size ≤ w'.stubs.size

namespace Tally

variable {dr dd dr' dd' : Nat → Nat} {w w' w'' : World}

theorem of_stubs (h : w'.stubs = w.stubs) : Tally (fun _ => 0) (fun _ => 0) w w' where
  releases f := by simp [World.releasesOf, h]
  dispatches f := by simp [World.dispatchesOf, h]
  answers f s hs := by simp [h, hs]
  size := by simp [h]

theorem trans (h₁ : Tally dr dd w w') (h₂ : Tally dr' dd' w' w'') :
    Tally (fun f => dr f + dr' f) (fun f => dd f + dd' f) w w'' where
  releases f := by rw [h₂.releases, h₁.releases, Nat.add_assoc]
  dispatches f := by rw [h₂.dispatches, h₁.dispatches, Nat.add_assoc]
  answers f s hs := by
    obtain ⟨s', hs', ha⟩ := Option.map_eq_some_iff.mp (h₁.answers f s hs)
    rw [h₂.answers f s' hs', ha]
  size := Nat.le_trans h₁.size h₂.size

theorem congr (h : Tally dr dd w w') {dr' dd' : Nat → Nat} (hr : ∀ f, dr f = dr' f)
    (hd : ∀ f, dd f = dd' f) : Tally dr' dd' w w' :=
  ⟨fun f => hr f ▸ h.releases f, fun f => hd f ▸ h.dispatches f, h.answers, h.size⟩

/-- A stand-in answers alike in both worlds. -/
theorem answer_eq (h : Tally dr dd w w') {f : Nat} {s s' : Stub} (hs : w.stubs[f]? = some s)
    (hs' : w'.stubs[f]? = some s') (k : Nat) : s'.answer k = s.answer k := by
  have ha : s'.answers = s.answers := by simpa [hs'] using h.answers f s hs
  simp only [Stub.answer, ha]

end Tally

/-- Some tallies lead from one world to the other: every stand-in keeps its answers, none goes
away, and none is released or dispatched to less. -/
def Tallied (w w' : World) : Prop := ∃ dr dd, Tally dr dd w w'

namespace Tallied

variable {w w' w'' : World}

theorem refl (w : World) : Tallied w w := ⟨_, _, Tally.of_stubs rfl⟩

theorem trans (h₁ : Tallied w w') (h₂ : Tallied w' w'') : Tallied w w'' := by
  obtain ⟨_, _, h₁⟩ := h₁
  obtain ⟨_, _, h₂⟩ := h₂
  exact ⟨_, _, h₁.trans h₂⟩

theorem answer_eq (h : Tallied w w') {f : Nat} {s s' : Stub} (hs : w.stubs[f]? = some s)
    (hs' : w'.stubs[f]? = some s') (k : Nat) : s'.answer k = s.answer k := by
  obtain ⟨_, _, h⟩ := h
  exact h.answer_eq hs hs' k

end Tallied

theorem Tally.tallied {dr dd : Nat → Nat} {w w' : World} (h : Tally dr dd w w') : Tallied w w' :=
  ⟨dr, dd, h⟩

theorem stubs_set {w : World} {f : Nat} (hf : f < w.stubs.size) (s' : Stub) (g : Nat) :
    (w.stubs.set! f s')[g]? = if g = f then some s' else w.stubs[g]? := by
  rw [Array.set!_eq_setIfInBounds, Array.getElem?_setIfInBounds]
  by_cases hg : g = f
  · simp [hg, hf]
  · simp [hg, Ne.symm hg]

/-- Replacing a stand-in by one with the same answers and a tally moved by `dr` releases and `dd`
dispatches moves its tally alone. -/
theorem tally_set {w : World} {f : Nat} {s s' : Stub} (hs : w.stubs[f]? = some s)
    {dr dd : Nat} (hr : s'.releases = s.releases + dr) (hd : s'.dispatches = s.dispatches + dd)
    (ha : s'.answers = s.answers) :
    Tally (fun g => if g = f then dr else 0) (fun g => if g = f then dd else 0) w
      { w with stubs := w.stubs.set! f s' } := by
  have hf : f < w.stubs.size := (Array.getElem?_eq_some_iff.mp hs).1
  refine ⟨fun g => ?_, fun g => ?_, fun g s₀ hs₀ => ?_, by simp⟩
  · simp only [World.releasesOf, stubs_set hf]
    by_cases hg : g = f
    · simp [hg, hs, hr]
    · simp [hg]
  · simp only [World.dispatchesOf, stubs_set hf]
    by_cases hg : g = f
    · simp [hg, hs, hd]
    · simp [hg]
  · simp only [stubs_set hf]
    by_cases hg : g = f
    · subst hg
      simp_all
    · simp [hg, hs₀]

/-! ## Releasing and dispatching to a stand-in -/

theorem release_stub_run {w : World} {f : Nat} {s : Stub} (hs : w.stubs[f]? = some s) :
    (release (.stub f)).run w =
      .ok () { w with stubs := w.stubs.set! f { s with releases := s.releases + 1 } } := by
  obtain ⟨hf, rfl⟩ := Array.getElem?_eq_some_iff.mp hs
  simp only [release, run_bind, get_run, slot_run _ w hf]
  rfl

/-- The part of a dispatch to a stand-in before its script runs: the dispatch is counted and
recorded, and the stand-in as it was and the dispatch's number are answered. -/
def stubCall (f : Nat) : Sim (Stub × Nat) := do
  let st ← slot (← get).stubs "fake" f
  let k := st.dispatches + 1
  modify fun w => { w with stubs := w.stubs.set! f { st with dispatches := k } }
  emit (.obj [("fake", .nat f), ("n", .nat k), ("now", stamp (← now))])
  return (st, k)

/-- A dispatch to a stand-in counts and records itself, runs the stand-in's script and answers
what the stand-in answers to it. -/
theorem dispatch_stub (n f : Nat) :
    dispatch (n + 1) (.stub f) = (do
      let (st, k) ← stubCall f
      runScript n (.stub f) st.script k
      return st.answer k) := by
  rw [dispatch]
  simp only [stubCall, bind_assoc, pure_bind]

theorem stubCall_run {w : World} {f : Nat} {s : Stub} (hs : w.stubs[f]? = some s) :
    (stubCall f).run w = .ok (s, s.dispatches + 1) (after (stubCall f) w) ∧
      (after (stubCall f) w).providers = w.providers ∧ (after (stubCall f) w).clock = w.clock ∧
      (after (stubCall f) w).metrics = w.metrics ∧
      (after (stubCall f) w).stubs = w.stubs.set! f { s with dispatches := s.dispatches + 1 } := by
  obtain ⟨hf, rfl⟩ := Array.getElem?_eq_some_iff.mp hs
  simp only [stubCall, after, run_bind, get_run, slot_run _ w hf, modify_run]
  exact ⟨rfl, rfl, rfl, rfl, rfl⟩

/-- A dispatch to a stand-in that returns answers what the stand-in answers to it. -/
theorem dispatch_stub_answer {n f : Nat} {w w' : World} {s : Stub} {b : Bool}
    (hs : w.stubs[f]? = some s) (h : (dispatch (n + 1) (.stub f)).run w = .ok b w') :
    b = s.answer (s.dispatches + 1) := by
  rw [dispatch_stub, run_bind, (stubCall_run hs).1] at h
  simp only [run_bind] at h
  split at h
  · exact (EStateM.Result.ok.inj h).1.symm
  · cases h

/-- A stand-in without a script counts the dispatch and answers it, and does nothing else. -/
theorem dispatch_unscripted_run {n f : Nat} {w : World} {s : Stub} (hs : w.stubs[f]? = some s)
    (hscript : s.script = []) :
    (dispatch (n + 2) (.stub f)).run w = .ok (s.answer (s.dispatches + 1)) (after (stubCall f) w) := by
  rw [dispatch_stub, run_bind, (stubCall_run hs).1]
  simp only [hscript, runScript, run_bind]
  rfl

/-! ## Steps that leave a provider's books alone -/

/-- A computation that moves no stand-in's tally and counts no destroyed provider. -/
def Quiet {α : Type} (x : Sim α) : Prop :=
  ∀ w, (after x w).stubs = w.stubs ∧ (after x w).metrics.isSome = w.metrics.isSome ∧
    ∀ vs, (after x w).metric .providersDestroyed vs = w.metric .providersDestroyed vs

theorem Quiet.of_books {α : Type} {x : Sim α}
    (h : ∀ w, (after x w).stubs = w.stubs ∧ (after x w).metrics = w.metrics) : Quiet x := by
  intro w
  obtain ⟨hs, hm⟩ := h w
  exact ⟨hs, by rw [hm], fun vs => by simp only [World.metric, hm]⟩

theorem Quiet.bind {α β : Type} {x : Sim α} {f : α → Sim β} (hx : Quiet x)
    (hf : ∀ a, Quiet (f a)) : Quiet (x >>= f) := by
  intro w
  cases h : x.run w with
  | ok a w₁ =>
    rw [after_bind_ok h]
    obtain ⟨hs, hm, hv⟩ := hx w
    rw [after_of_ok h] at hs hm hv
    obtain ⟨hs', hm', hv'⟩ := hf a w₁
    exact ⟨hs'.trans hs, hm'.trans hm, fun vs => (hv' vs).trans (hv vs)⟩
  | error e w₁ =>
    have hb : after (x >>= f) w = after x w := by simp only [after, run_bind, h]
    rw [hb]
    exact hx w

theorem quiet_pure {α : Type} (a : α) : Quiet (pure a : Sim α) :=
  fun _ => ⟨rfl, rfl, fun _ => rfl⟩

theorem log_books (l : Log.Logger) (s : Severity) (m : String) (fs : List Log.Field) (w : World) :
    (after (log l s m fs) w).stubs = w.stubs ∧ (after (log l s m fs) w).metrics = w.metrics := by
  rw [after_log_lines]
  exact ⟨rfl, rfl⟩

@[simp] theorem after_log_stubs (l : Log.Logger) (s : Severity) (m : String)
    (fs : List Log.Field) (w : World) : (after (log l s m fs) w).stubs = w.stubs :=
  (log_books l s m fs w).1

@[simp] theorem after_log_metrics (l : Log.Logger) (s : Severity) (m : String)
    (fs : List Log.Field) (w : World) : (after (log l s m fs) w).metrics = w.metrics :=
  (log_books l s m fs w).2

theorem quiet_log (l : Log.Logger) (s : Severity) (m : String) (fs : List Log.Field) :
    Quiet (log l s m fs) :=
  Quiet.of_books fun w => by
    rw [after_log_lines]
    exact ⟨rfl, rfl⟩

theorem quiet_count {f : Metrics.Family} (hf : f ≠ .providersDestroyed) (vs : List String) :
    Quiet (count f vs) := by
  intro w
  refine ⟨rfl, metrics_isSome_count f vs w, fun vs' => ?_⟩
  rw [metric_count]
  simp [Ne.symm hf]

theorem quiet_destroyCont (c : Option Nat) : Quiet (destroyCont c) :=
  Quiet.of_books fun _ => ⟨rfl, rfl⟩

theorem quiet_cancelArmed (l : Log.Logger) (a : Nat) (withId : Bool) :
    Quiet (cancelArmed l a withId) :=
  Quiet.of_books fun w => by
    simp only [after, cancelArmed, cancelAction, run_bind, get_run, set_run]
    cases (w.clock.cancel (some a)).1 with
    | ok u => exact ⟨rfl, rfl⟩
    | error e => exact log_books _ _ _ _ _

theorem quiet_gatedSchedule (p cont : Nat) (kind : Kind) (d : Int) :
    Quiet (gatedSchedule p cont kind d) :=
  Quiet.of_books fun w => by
    simp only [after, gatedSchedule_run]
    cases w.providers[p]? <;> exact ⟨rfl, rfl⟩

/-- The end of a destroy: the controller, if any, is released, and the destruction counted. -/
def settle (ctrl : Option ControllerRef) (kind reason : String) : Sim Unit := do
  if let some c := ctrl then release c
  count .providersDestroyed [kind, reason]

/-- Settling with no controller or with a stand-in releases the stand-in and counts the
destruction under its kind and reason, touching neither a provider nor the clock. -/
theorem settle_run {w : World} {ctrl : Option ControllerRef}
    (hc : ctrl = none ∨ ∃ f s, ctrl = some (.stub f) ∧ w.stubs[f]? = some s) (kind reason : String) :
    (settle ctrl kind reason).run w = .ok () (after (settle ctrl kind reason) w) ∧
      (after (settle ctrl kind reason) w).providers = w.providers ∧
      (after (settle ctrl kind reason) w).clock = w.clock ∧
      Tally (fun f => if ctrl = some (.stub f) then 1 else 0) (fun _ => 0) w
        (after (settle ctrl kind reason) w) ∧
      (after (settle ctrl kind reason) w).metrics.isSome = w.metrics.isSome ∧
      ∀ vs, (after (settle ctrl kind reason) w).metric .providersDestroyed vs =
        w.metric .providersDestroyed vs + if w.metrics.isSome ∧ vs = [kind, reason] then 1 else 0 := by
  rcases hc with rfl | ⟨f, s, rfl, hs⟩
  · have hrun : (settle none kind reason).run w =
        .ok () (after (count .providersDestroyed [kind, reason]) w) := rfl
    rw [after_of_ok hrun]
    have ht : Tally (fun _ => 0) (fun _ => 0) w
        (after (count .providersDestroyed [kind, reason]) w) := Tally.of_stubs rfl
    refine ⟨hrun, rfl, rfl, ht.congr (fun _ => by simp) (fun _ => rfl),
      metrics_isSome_count _ _ w, fun vs => ?_⟩
    rw [metric_count]
    by_cases hv : vs = [kind, reason] <;> simp [hv]
  · -- The stand-in is released first; counting then touches only the registry.
    set w₁ := { w with stubs := w.stubs.set! f { s with releases := s.releases + 1 } }
    have hrun : (settle (some (.stub f)) kind reason).run w =
        .ok () (after (count .providersDestroyed [kind, reason]) w₁) := by
      simp only [settle, run_bind, release_stub_run hs]
      rfl
    have ht₁ : Tally (fun g => if g = f then 1 else 0) (fun g => if g = f then 0 else 0) w w₁ :=
      tally_set hs rfl rfl rfl
    have ht₂ : Tally (fun _ => 0) (fun _ => 0) w₁
        (after (count .providersDestroyed [kind, reason]) w₁) := Tally.of_stubs rfl
    have ht := ht₁.trans ht₂
    rw [after_of_ok hrun]
    refine ⟨hrun, rfl, rfl, ht.congr (fun g => ?_) (fun _ => by simp),
      metrics_isSome_count _ _ w₁, fun vs => ?_⟩
    · by_cases hg : g = f
      · simp [hg]
      · simp [hg, Ne.symm hg]
    · rw [metric_count]
      by_cases hv : vs = [kind, reason] <;> simp [hv, w₁, World.metric]

/-- What a step that leaves a provider on continuation `c` alone keeps, while it moves the
stand-ins' tallies by `dr` releases and `dd` dispatches: whether the continuation is destroyed,
how many continuations there are and how many are destroyed, and the destroyed providers counted. -/
structure Frame (c : Nat) (dr dd : Nat → Nat) (w w' : World) : Prop where
  cont : w'.clock.isDestroyed c = w.clock.isDestroyed c
  contsMade : w.clock.destroyed.size ≤ w'.clock.destroyed.size
  conts : w'.clock.stats.destroyed = w.clock.stats.destroyed
  stubs : Tally dr dd w w'
  registry : w'.metrics.isSome = w.metrics.isSome
  series : ∀ vs, w'.metric .providersDestroyed vs = w.metric .providersDestroyed vs

/-- A quiet step that keeps the clock's record of continuations is a frame. -/
theorem Frame.of_quiet {c : Nat} {w w' : World}
    (hk : w'.clock.destroyed = w.clock.destroyed ∧ w'.clock.stats.destroyed = w.clock.stats.destroyed)
    (hq : w'.stubs = w.stubs ∧ w'.metrics.isSome = w.metrics.isSome ∧
      ∀ vs, w'.metric .providersDestroyed vs = w.metric .providersDestroyed vs) :
    Frame c (fun _ => 0) (fun _ => 0) w w' :=
  ⟨Clock.isDestroyed_congr hk.1 c, Nat.le_of_eq (by rw [hk.1]), hk.2, Tally.of_stubs hq.1, hq.2.1, hq.2.2⟩

/-- A call on a stand-in counts one dispatch of it and leaves every continuation alone. -/
theorem frame_stubCall {c f : Nat} {w : World} {s : Stub} (hs : w.stubs[f]? = some s) :
    Frame c (fun _ => 0) (fun g => if g = f then 1 else 0) w (after (stubCall f) w) := by
  obtain ⟨-, -, hclock, hmet, hstubs⟩ := stubCall_run hs
  have ht₁ : Tally (fun g => if g = f then 0 else 0) (fun g => if g = f then 1 else 0) w
      { w with stubs := w.stubs.set! f { s with dispatches := s.dispatches + 1 } } :=
    tally_set hs rfl rfl rfl
  have ht₂ : Tally (fun _ => 0) (fun _ => 0)
      { w with stubs := w.stubs.set! f { s with dispatches := s.dispatches + 1 } }
      (after (stubCall f) w) := Tally.of_stubs hstubs
  exact ⟨by rw [hclock], by rw [hclock], by rw [hclock],
    (ht₁.trans ht₂).congr (fun _ => by simp) (fun _ => by simp), by rw [hmet],
    fun _ => by simp only [World.metric, hmet]⟩

/-- How a world moves when a live provider on continuation `c` with controller `ctrl` is
destroyed for `reason`: the continuation is destroyed and counted, the stand-in released, and the
destruction counted under the provider's kind and the reason. -/
structure Destroys (kind reason : String) (c : Nat) (ctrl : Option ControllerRef) (w w' : World) :
    Prop where
  cont : w'.clock.isDestroyed c = true
  contsMade : w.clock.destroyed.size ≤ w'.clock.destroyed.size
  conts : w'.clock.stats.destroyed = w.clock.stats.destroyed + 1
  stubs : Tally (fun f => if ctrl = some (.stub f) then 1 else 0) (fun _ => 0) w w'
  registry : w'.metrics.isSome = w.metrics.isSome
  series : ∀ vs, w'.metric .providersDestroyed vs =
    w.metric .providersDestroyed vs + if w.metrics.isSome ∧ vs = [kind, reason] then 1 else 0

/-- A destroy in two parts destroys the provider: first it dismantles the provider quietly into
`W`, on a clock `k` that keeps the continuations `w`'s clock made and then has the live
continuation `c` destroyed, and then it settles the controller, none or a stand-in. -/
theorem Destroys.of_settle {kind reason : String} {c : Nat} {ctrl : Option ControllerRef}
    {w W w' : World} {k : Clock}
    (hq : W.stubs = w.stubs ∧ W.metrics.isSome = w.metrics.isSome ∧
      ∀ vs, W.metric .providersDestroyed vs = w.metric .providersDestroyed vs)
    (hc : ctrl = none ∨ ∃ f s, ctrl = some (.stub f) ∧ w.stubs[f]? = some s)
    (hafter : w' = after (settle ctrl kind reason) W) (hk : Clock.SameConts w.clock k)
    (hl : w.clock.isDestroyed c = false) (hv : 0 < c ∧ c ≤ w.clock.destroyed.size)
    (hclock : w'.clock = k.destroyContinuation (some c)) :
    Destroys kind reason c ctrl w w' := by
  obtain ⟨hsW, hmW, hvW⟩ := hq
  have hc' : ctrl = none ∨ ∃ f s, ctrl = some (.stub f) ∧ W.stubs[f]? = some s := by
    rwa [hsW]
  obtain ⟨-, -, -, ht, hreg, hser⟩ := settle_run hc' kind reason
  have hl' : k.isDestroyed c = false := (Clock.isDestroyed_congr hk.1 c).trans hl
  obtain ⟨hdes, hsize, hcount⟩ := Clock.destroyContinuation_live hl' (hk.1 ▸ hv)
  subst hafter
  refine ⟨?_, ?_, ?_, ?_, ?_, ?_⟩
  · rw [hclock]
    exact hdes
  · rw [hclock, hsize, hk.1]
  · rw [hclock, hcount, hk.2]
  · exact ((Tally.of_stubs hsW).trans ht).congr (fun f => by simp) (fun f => by simp)
  · rw [hreg, hmW]
  · intro vs
    rw [hser, hvW, hmW]

/-- The continuation of a provider. -/
def Task.cont : Task → Nat
  | .timer t => t.cont
  | .cron t => t.cont

/-- A step of some other party, which leaves the provider in slot `p` alone: its slot, the
actions pending on its continuation, and its frame. -/
structure Elsewhere (p : Nat) (w w' : World) : Prop where
  slot : w'.providers[p]? = w.providers[p]?
  pending : ∀ v, w.providers[p]? = some v →
    w'.clock.pendingOn v.task.cont = w.clock.pendingOn v.task.cont
  frame : ∀ v, w.providers[p]? = some v → Frame v.task.cont (fun _ => 0) (fun _ => 0) w w'

/-- A log line leaves every provider alone. -/
theorem elsewhere_log (p : Nat) (l : Log.Logger) (s : Severity) (m : String)
    (fs : List Log.Field) (w : World) : Elsewhere p w (after (log l s m fs) w) where
  slot := by rw [after_log_providers]
  pending _ _ := by rw [after_log_clock]
  frame _ _ := Frame.of_quiet (by rw [after_log_clock]; exact ⟨rfl, rfl⟩) (quiet_log l s m fs w)

/-! ## The books a provider keeps -/

/-- What the books read of a provider: whether it is destroyed and whether it has run, its
controller and its continuation. -/
structure View where
  destroyed : Bool
  ran : Bool
  controller : Option ControllerRef
  cont : Nat

/-- A Run with a stand-in, on a provider neither destroyed nor run before, marks it run and keeps
the stand-in if it succeeds; any other Run changes nothing. -/
def View.afterRun (v : View) (ctrl : Option Nat) (ok : Bool) : View :=
  if ctrl.isSome && !v.destroyed && !v.ran then
    { v with ran := true, controller := if ok then ctrl.map .stub else none }
  else v

/-- A destroyed provider keeps no controller. -/
def View.dead (v : View) : View := { v with destroyed := true, controller := none }

/-- The shape of a trace at the top level (`top`) or while a dispatch is out: each dispatch is
answered before the next; every answer but the last is yes, and every one is while a dispatch is
out; nothing is dispatched from the first destroying event on. -/
structure Shape (top : Bool) (cs : List LifeEvent) : Prop where
  pending : dispatched cs = (replies cs).length + if top then 0 else 1
  yes : ∀ b ∈ (replies cs).dropLast, b = true
  answering : top = false → ∀ b ∈ replies cs, b = true
  afterEnd : dispatched (fromEnd cs) = 0

/-- The answers in a trace are the retained stand-in's own, in order: its answers to its dispatches
after those it had in `w₀`. -/
def Answered (w₀ w : World) (cs : List LifeEvent) : Prop :=
  ∀ f s, retained cs = some f → w.stubs[f]? = some s →
    ∀ j b, (replies cs)[j]? = some b → b = s.answer (w₀.dispatchesOf f + j + 1)

/-- The answer `b` is the retained stand-in's own to the dispatch after all those answered in the
trace. -/
def Owed (w₀ w : World) (cs : List LifeEvent) (b : Bool) : Prop :=
  ∀ f s, retained cs = some f → w.stubs[f]? = some s →
    b = s.answer (w₀.dispatchesOf f + (replies cs).length + 1)

/-- What is owed stays owed when the tallies move, as long as the retained stand-in exists. -/
theorem Owed.tallied {w₀ w w' : World} {cs : List LifeEvent} {b : Bool} (h : Owed w₀ w cs b)
    (hs : ∀ f, retained cs = some f → f < w.stubs.size) (ht : Tallied w w') : Owed w₀ w' cs b := by
  intro f s hf hs'
  have hlt := hs f hf
  have hs₀ : w.stubs[f]? = some w.stubs[f] := Array.getElem?_eq_getElem hlt
  rw [ht.answer_eq hs₀ hs']
  exact h f _ hf hs₀

/-- What a provider of `kind` keeps true of its world and its trace, relative to the world `w₀`
its trace started in. It is destroyed exactly when its trace has a cause, and then keeps no
controller, its continuation is destroyed and counted once, and the destruction is counted once
under its cause. Before that it keeps the stand-in its successful Run retained. That stand-in is
released once the provider is destroyed and never otherwise, and has been dispatched to once per
dispatch in the trace; its answers in the trace are its own, in order. -/
structure Ledger (kind : String) (w₀ : World) (v : View) (w : World) (cs : List LifeEvent) :
    Prop where
  destroyed : v.destroyed = (cause cs).isSome
  controller : v.controller = if v.destroyed then none else (retained cs).map .stub
  idle : v.ran = false → retained cs = none
  cont : w.clock.isDestroyed v.cont = v.destroyed
  contValid : 0 < v.cont ∧ v.cont ≤ w.clock.destroyed.size
  conts : w.clock.stats.destroyed = w₀.clock.stats.destroyed + if v.destroyed then 1 else 0
  releases : ∀ f, w.releasesOf f =
    w₀.releasesOf f + if v.destroyed ∧ retained cs = some f then 1 else 0
  dispatches : ∀ f, w.dispatchesOf f =
    w₀.dispatchesOf f + if retained cs = some f then dispatched cs else 0
  unretained : retained cs = none → dispatched cs = 0 ∧ replies cs = []
  stub : ∀ f, retained cs = some f → f < w.stubs.size
  answered : Answered w₀ w cs
  registry : w.metrics.isSome = w₀.metrics.isSome
  series : ∀ c : Cause, w.metric .providersDestroyed [kind, c.reason] =
    w₀.metric .providersDestroyed [kind, c.reason] +
      if w₀.metrics.isSome ∧ cause cs = some c then 1 else 0

namespace Shape

variable {top : Bool} {cs : List LifeEvent}

theorem nil : Shape true [] := ⟨rfl, by simp, by simp, rfl⟩

theorem dispatched_fromEnd_le (cs : List LifeEvent) : dispatched (fromEnd cs) ≤ dispatched cs :=
  (List.dropWhile_sublist _).count_le _

/-- An event that neither dispatches nor answers keeps the shape. -/
theorem step (h : Shape top cs) {e : LifeEvent} (hd : e ≠ .dispatch) (hr : e.reply = none) :
    Shape top (cs ++ [e]) where
  pending := by simp [hd, hr, h.pending]
  yes := by simpa [hr] using h.yes
  answering := by simpa [hr] using h.answering
  afterEnd := by
    have hle := dispatched_fromEnd_le [e]
    rw [fromEnd_append]
    split
    · simpa [hd] using hle
    · simp [h.afterEnd, hd]

/-- A dispatch made before any destroying event leaves one dispatch out, with every answer so far
a yes. -/
theorem enter (h : Shape true cs) (hc : cause cs = none) : Shape false (cs ++ [.dispatch]) := by
  have hyes : ∀ b ∈ replies cs, b = true := by
    intro b hb
    cases b
    · have hs := cause_isSome_of_reply_false hb
      rw [hc] at hs
      cases hs
    · rfl
  refine ⟨by simp [h.pending, reply], ?_, ?_, ?_⟩
  · simpa [reply] using fun b hb => hyes b (List.dropLast_subset _ hb)
  · simpa [reply] using hyes
  · rw [fromEnd_append, if_pos hc]
    rfl

/-- The answer to the dispatch out closes it. -/
theorem leave (h : Shape false cs) (b : Bool) : Shape true (cs ++ [.answer b]) where
  pending := by simp [h.pending, reply]
  yes := by simpa [reply] using h.answering rfl
  answering := by simp
  afterEnd := by
    rw [fromEnd_append]
    split
    · simp [fromEnd, List.dropWhile]
      cases b <;> simp [ends]
    · simp [h.afterEnd]

end Shape

namespace Answered

variable {w₀ w w' : World} {cs cs' : List LifeEvent}

/-- The answers stay the stand-in's own when the tallies move, as long as it exists. -/
theorem tally (h : Answered w₀ w cs) (hs : ∀ f, retained cs = some f → f < w.stubs.size)
    {dr dd : Nat → Nat} (ht : Tally dr dd w w') : Answered w₀ w' cs := by
  intro f s hr hs' j b hj
  have hf := hs f hr
  have hs₀ : w.stubs[f]? = some w.stubs[f] := Array.getElem?_eq_getElem hf
  rw [ht.answer_eq hs₀ hs']
  exact h f _ hr hs₀ j b hj

theorem of_trace (h : Answered w₀ w cs) (hr : retained cs' = retained cs)
    (hp : replies cs' = replies cs) : Answered w₀ w cs' := by
  intro f s hf hs j b hj
  rw [hr] at hf
  rw [hp] at hj
  exact h f s hf hs j b hj

/-- An answer the retained stand-in gives to its next dispatch keeps the answers its own. -/
theorem snoc (h : Answered w₀ w cs) {e : LifeEvent} (hret : e.retains = none)
    (hrep : ∀ b, e.reply = some b → Owed w₀ w cs b) :
    Answered w₀ w (cs ++ [e]) := by
  intro f s hf hs j b hj
  have hf' : retained cs = some f := by simpa [retained_append, hret] using hf
  rw [replies_append, replies_single] at hj
  by_cases hj' : j < (replies cs).length
  · rw [List.getElem?_append_left hj'] at hj
    exact h f s hf' hs j b hj
  · rw [List.getElem?_append_right (Nat.le_of_not_lt hj')] at hj
    cases hrp : e.reply with
    | none => simp [hrp] at hj
    | some b' =>
      simp only [hrp, Option.toList_some] at hj
      -- The one new answer is the answer to the dispatch after all those answered before.
      obtain ⟨hk, rfl⟩ : j - (replies cs).length = 0 ∧ b' = b := by
        cases hk : j - (replies cs).length <;> simp_all
      rw [show j = (replies cs).length by omega]
      exact hrep b' hrp f s hf' hs

/-- At the top level, a stand-in that answers no to its `k`-th dispatch is dispatched to at most
`k` times, and by the `k`-th the provider's life has ended. -/
theorem dispatched_le_of_no (h : Answered w₀ w cs) (hs : Shape true cs) {f : Nat} {s : Stub}
    (hr : retained cs = some f) (hst : w.stubs[f]? = some s) {k : Nat} (hk : 0 < k)
    (hno : s.answer (w₀.dispatchesOf f + k) = false) :
    dispatched cs ≤ k ∧ (dispatched cs = k → (cause cs).isSome) := by
  have hlen : dispatched cs = (replies cs).length := by simpa using hs.pending
  have hkth : ∀ b, (replies cs)[k - 1]? = some b → b = false := by
    intro b hb
    have := h f s hr hst (k - 1) b hb
    rwa [show w₀.dispatchesOf f + (k - 1) + 1 = w₀.dispatchesOf f + k by omega, hno] at this
  refine ⟨Nat.le_of_not_lt fun hgt => ?_, fun heq => ?_⟩
  · -- Every answer before the last one is a yes, and the `k`-th is not the last.
    have hlt : k - 1 < (replies cs).length - 1 := by omega
    have hmem : (replies cs)[k - 1] ∈ (replies cs).dropLast := by
      rw [← List.getElem_dropLast (by simpa using hlt)]
      exact List.getElem_mem _
    have hyes := hs.yes _ hmem
    have hno' := hkth _ (List.getElem?_eq_getElem (by omega))
    rw [hyes] at hno'
    cases hno'
  · have hlt : k - 1 < (replies cs).length := by omega
    have hno' := hkth _ (List.getElem?_eq_getElem hlt)
    exact cause_isSome_of_reply_false (hno' ▸ List.getElem_mem hlt)

/-- While a stand-in answers yes to its dispatches before the `k`-th, a trace with fewer than `k`
dispatches has no no in it, so nothing but the owner ended the provider. -/
theorem not_gone_of_yes (h : Answered w₀ w cs) (hs : Shape true cs) {f : Nat} {s : Stub}
    (hr : retained cs = some f) (hst : w.stubs[f]? = some s) {k : Nat}
    (hyes : ∀ j, j + 1 < k → s.answer (w₀.dispatchesOf f + j + 1) = true)
    (hlt : dispatched cs < k) : cause cs ≠ some .consumerGone := by
  intro hc
  obtain ⟨j, hj, hjb⟩ := List.getElem_of_mem (reply_false_of_cause hc)
  have hlen : dispatched cs = (replies cs).length := by simpa using hs.pending
  have hans := h f s hr hst j false (by rw [List.getElem?_eq_getElem hj, hjb])
  rw [hyes j (by omega)] at hans
  cases hans

end Answered

namespace Ledger

variable {kind : String} {w₀ w w' : World} {v : View} {cs : List LifeEvent}

/-- A provider just made, live, not run and without a controller, on a live continuation, starts
its books with an empty trace. -/
theorem start (hd : v.destroyed = false) (hc : v.controller = none)
    (hl : w₀.clock.isDestroyed v.cont = false) (hv : 0 < v.cont ∧ v.cont ≤ w₀.clock.destroyed.size) :
    Ledger kind w₀ v w₀ [] where
  destroyed := by simp [hd]
  controller := by simp [hd, hc]
  idle _ := rfl
  cont := by rw [hl, hd]
  contValid := hv
  conts := by simp [hd]
  releases f := by simp
  dispatches f := by simp
  unretained _ := ⟨rfl, rfl⟩
  stub f h := by simp at h
  answered f s h := by simp at h
  registry := rfl
  series c := by simp

/-- The books read a trace only through its cause, the stand-in retained, the dispatches and the
answers. -/
theorem retrace (h : Ledger kind w₀ v w cs) {cs' : List LifeEvent} (hc : cause cs' = cause cs)
    (hr : retained cs' = retained cs) (hd : dispatched cs' = dispatched cs)
    (hun : retained cs = none → replies cs' = []) (ha : Answered w₀ w cs') :
    Ledger kind w₀ v w cs' where
  destroyed := hc ▸ h.destroyed
  controller := hr ▸ h.controller
  idle := hr ▸ h.idle
  cont := h.cont
  contValid := h.contValid
  conts := h.conts
  releases := hr ▸ h.releases
  dispatches := hd ▸ hr ▸ h.dispatches
  unretained hn := ⟨hd ▸ (h.unretained (hr ▸ hn)).1, hun (hr ▸ hn)⟩
  stub := hr ▸ h.stub
  answered := ha
  registry := h.registry
  series := hc ▸ h.series

theorem of_trace (h : Ledger kind w₀ v w cs) {cs' : List LifeEvent} (hc : cause cs' = cause cs)
    (hr : retained cs' = retained cs) (hd : dispatched cs' = dispatched cs)
    (hp : replies cs' = replies cs) : Ledger kind w₀ v w cs' :=
  h.retrace hc hr hd (fun hn => hp ▸ (h.unretained hn).2) (h.answered.of_trace hr hp)

/-- Steps that leave the provider alone keep its books. -/
theorem frame (h : Ledger kind w₀ v w cs) (hf : Frame v.cont (fun _ => 0) (fun _ => 0) w w') :
    Ledger kind w₀ v w' cs where
  destroyed := h.destroyed
  controller := h.controller
  idle := h.idle
  cont := hf.cont.trans h.cont
  contValid := ⟨h.contValid.1, Nat.le_trans h.contValid.2 hf.contsMade⟩
  conts := hf.conts.trans h.conts
  releases f := by rw [hf.stubs.releases, h.releases, Nat.add_zero]
  dispatches f := by rw [hf.stubs.dispatches, h.dispatches, Nat.add_zero]
  unretained := h.unretained
  stub f hr := Nat.lt_of_lt_of_le (h.stub f hr) hf.stubs.size
  answered := h.answered.tally h.stub hf.stubs
  registry := hf.registry.trans h.registry
  series c := by rw [hf.series, h.series]

/-- Being run is recorded only to say that no stand-in was retained before. -/
theorem mark_ran (h : Ledger kind w₀ v w cs) : Ledger kind w₀ { v with ran := true } w cs :=
  { h with idle := fun hr => absurd hr (by simp) }

/-- A Run keeps the books: one that succeeds retains its stand-in, one that fails on a provider
neither destroyed nor run marks it run without a controller, and any other changes nothing. -/
theorem run (h : Ledger kind w₀ v w cs) (ctrl : Option Nat) (ok : Bool)
    (hok : ok = true → (ctrl.isSome && !v.destroyed && !v.ran) = true)
    (hctrl : ∀ f ∈ ctrl, f < w.stubs.size) (hf : Frame v.cont (fun _ => 0) (fun _ => 0) w w') :
    Ledger kind w₀ (v.afterRun ctrl ok) w' (cs ++ [.run ctrl ok]) := by
  have h' := h.frame hf
  have hc : cause (cs ++ [.run ctrl ok]) = cause cs := by simp [cause_append, ends]
  have hd : dispatched (cs ++ [.run ctrl ok]) = dispatched cs := by simp
  have hp : replies (cs ++ [.run ctrl ok]) = replies cs := by simp [reply]
  by_cases hcond : (ctrl.isSome && !v.destroyed && !v.ran) = true
  · simp only [Bool.and_eq_true, Bool.not_eq_eq_eq_not, Bool.not_true] at hcond
    obtain ⟨⟨hs, hdes⟩, hran⟩ := hcond
    obtain ⟨f, rfl⟩ := Option.isSome_iff_exists.mp hs
    have hnone := h.idle hran
    obtain ⟨hd0, hr0⟩ := h.unretained hnone
    have hctl : v.controller = none := by simp [h.controller, hdes, hnone]
    cases ok with
    | false =>
      have hv : v.afterRun (some f) false = { v with ran := true } := by
        simp [View.afterRun, hdes, hran, hctl]
      rw [hv]
      exact (h'.of_trace hc (by simp [retained_append, hnone, retains]) hd hp).mark_ran
    | true =>
      have hv : v.afterRun (some f) true = { v with ran := true, controller := some (.stub f) } := by
        simp [View.afterRun, hdes, hran]
      have hre : retained (cs ++ [.run (some f) true]) = some f := by
        simp [retained_append, hnone, retains]
      rw [hv]
      exact {
        destroyed := hc ▸ h'.destroyed
        controller := by simp [hdes, hre]
        idle := fun hr => absurd hr (by simp)
        cont := h'.cont
        contValid := h'.contValid
        conts := h'.conts
        releases := fun g => by simpa [hdes] using h'.releases g
        dispatches := fun g => by simpa [hre, hd, hd0, hnone] using h'.dispatches g
        unretained := fun hr => by simp [hre] at hr
        stub := fun g hg => by
          rw [hre] at hg
          cases hg
          exact Nat.lt_of_lt_of_le (hctrl f rfl) hf.stubs.size
        answered := fun g s hg hs j b hj => by simp [hp, hr0] at hj
        registry := h'.registry
        series := hc ▸ h'.series }
  · have hok' : ok = false := by
      cases ok
      · rfl
      · exact absurd (hok rfl) hcond
    subst hok'
    have hv : v.afterRun ctrl false = v := by simp [View.afterRun, hcond]
    rw [hv]
    exact h'.of_trace hc (by cases ctrl <;> simp [retained_append, retains]) hd hp

/-- The stand-in a live provider retained. -/
theorem retained_of_controller (h : Ledger kind w₀ v w cs) {f : Nat} (hd : v.destroyed = false)
    (hc : v.controller = some (.stub f)) : retained cs = some f := by
  have hctl := h.controller
  rw [hc, hd, if_neg (by simp)] at hctl
  obtain ⟨g, hg, hgf⟩ := Option.map_eq_some_iff.mp hctl.symm
  cases hgf
  exact hg

/-- A live provider's trace has no cause yet. -/
theorem cause_eq_none (h : Ledger kind w₀ v w cs) (hd : v.destroyed = false) : cause cs = none := by
  have hsome := h.destroyed
  rw [hd] at hsome
  exact Option.not_isSome_iff_eq_none.mp (by simp [← hsome])

/-- A live provider keeps no controller or the stand-in it retained, which exists: destroying it
can settle its controller. -/
theorem controller_settles (h : Ledger kind w₀ v w cs) (hd : v.destroyed = false) :
    v.controller = none ∨ ∃ f s, v.controller = some (.stub f) ∧ w.stubs[f]? = some s := by
  have hctl : v.controller = (retained cs).map .stub := by simpa [hd] using h.controller
  rw [hctl]
  cases hr : retained cs with
  | none => exact .inl rfl
  | some f =>
    have hlt := h.stub f hr
    exact .inr ⟨f, w.stubs[f], rfl, Array.getElem?_eq_getElem hlt⟩

/-- A dispatch to the retained stand-in at the top answers what it owes on any later trace that
keeps the stand-in and the answers: its own answer to the dispatch after all those answered. -/
theorem owed (h : Ledger kind w₀ v w cs) (hsh : Shape true cs) {f : Nat} (hre : retained cs = some f)
    {cs' : List LifeEvent} (hret : retained cs' = some f) (hrep : replies cs' = replies cs)
    {n : Nat} {b : Bool} {W : World} (hdisp : (dispatch (n + 1) (.stub f)).run w = .ok b W)
    (ht : Tallied w W) : Owed w₀ W cs' b := by
  have hlt := h.stub f hre
  have hs : w.stubs[f]? = some w.stubs[f] := Array.getElem?_eq_getElem hlt
  -- At the top every dispatch is answered, so the stand-in was dispatched to once per answer.
  have hdsp : w.stubs[f].dispatches = w₀.dispatchesOf f + (replies cs).length := by
    have hd := h.dispatches f
    rw [if_pos hre, hsh.pending] at hd
    simpa [World.dispatchesOf, hs] using hd
  intro g s hg hs₂
  obtain rfl : g = f := Option.some.inj (hg.symm.trans hret)
  rw [ht.answer_eq hs hs₂, dispatch_stub_answer hs hdisp, hdsp, hrep]

/-- A dispatch to the stand-in of a live provider counts once, in its tally and in the trace. -/
theorem enter (h : Ledger kind w₀ v w cs) {f : Nat} (hd : v.destroyed = false)
    (hc : v.controller = some (.stub f))
    (hf : Frame v.cont (fun _ => 0) (fun g => if g = f then 1 else 0) w w') :
    Ledger kind w₀ v w' (cs ++ [.dispatch]) := by
  have hre := h.retained_of_controller hd hc
  have hcause : cause (cs ++ [.dispatch]) = cause cs := by simp [cause_append, ends]
  have hret : retained (cs ++ [.dispatch]) = retained cs := by simp [retained_append, retains]
  have hrep : replies (cs ++ [.dispatch]) = replies cs := by simp [reply]
  refine {
    destroyed := hcause ▸ h.destroyed
    controller := hret ▸ h.controller
    idle := hret ▸ h.idle
    cont := hf.cont.trans h.cont
    contValid := ⟨h.contValid.1, Nat.le_trans h.contValid.2 hf.contsMade⟩
    conts := hf.conts.trans h.conts
    releases := fun g => by rw [hf.stubs.releases, h.releases, hret, Nat.add_zero]
    dispatches := fun g => ?_
    unretained := fun hn => by rw [hret, hre] at hn; cases hn
    stub := fun g hg => Nat.lt_of_lt_of_le (h.stub g (hret ▸ hg)) hf.stubs.size
    answered := (h.answered.tally h.stub hf.stubs).of_trace hret hrep
    registry := hf.registry.trans h.registry
    series := fun c => by rw [hf.series, h.series, hcause] }
  rw [hf.stubs.dispatches, h.dispatches, hret, hre]
  by_cases hg : g = f
  · subst hg
    simp [Nat.add_assoc]
  · simp [hg, Ne.symm hg]

/-- A yes from the retained stand-in, its own answer to the dispatch out, keeps the books. -/
theorem answerYes (h : Ledger kind w₀ v w cs) {f : Nat} (hr : retained cs = some f)
    (hb : ∀ s, w.stubs[f]? = some s → s.answer (w₀.dispatchesOf f + (replies cs).length + 1) = true) :
    Ledger kind w₀ v w (cs ++ [.answer true]) :=
  h.retrace (by simp [cause_append, ends]) (by simp [retained_append, retains])
    (by simp) (fun hn => by rw [hr] at hn; cases hn)
    (h.answered.snoc (by rfl) fun b hb' g s hg hs => by
      rw [hr] at hg
      cases hg
      cases hb'
      exact (hb s hs).symm)

/-- Destroying a live provider, by its owner or after a no from its controller, ends it: the
trace gets its cause, the continuation is destroyed and counted, the stand-in released, and the
destruction counted under its cause. -/
theorem ending_live (h : Ledger kind w₀ v w cs) (hd : v.destroyed = false) {e : LifeEvent}
    {c : Cause} (hev : e.ends = some c) (hret : e.retains = none) (hdis : e ≠ .dispatch)
    (hrep : ∀ b, e.reply = some b → Owed w₀ w' cs b)
    (hun : retained cs = none → e.reply = none)
    (hw : Destroys kind c.reason v.cont v.controller w w') :
    Ledger kind w₀ v.dead w' (cs ++ [e]) := by
  have hnone := h.cause_eq_none hd
  have hcause : cause (cs ++ [e]) = some c := by simp [cause_append, hnone, hev]
  have hre : retained (cs ++ [e]) = retained cs := by simp [retained_append, hret]
  have hctl : v.controller = (retained cs).map .stub := by simpa [hd] using h.controller
  refine {
    destroyed := by simp [View.dead, hcause]
    controller := by simp [View.dead]
    idle := fun hr => hre ▸ h.idle hr
    cont := hw.cont
    contValid := ⟨h.contValid.1, Nat.le_trans h.contValid.2 hw.contsMade⟩
    conts := by simp [View.dead, hw.conts, h.conts, hd]
    releases := fun g => ?_
    dispatches := fun g => by simp [hw.stubs.dispatches, h.dispatches, hre, hdis]
    unretained := fun hn => by
      rw [hre] at hn
      obtain ⟨h₁, h₂⟩ := h.unretained hn
      exact ⟨by simp [h₁, hdis], by simp [h₂, hun hn]⟩
    stub := fun g hg => Nat.lt_of_lt_of_le (h.stub g (hre ▸ hg)) hw.stubs.size
    answered := (h.answered.tally h.stub hw.stubs).snoc hret hrep
    registry := hw.registry.trans h.registry
    series := fun c' => ?_ }
  · -- The stand-in released is the one the provider kept, which is the one it retained.
    rw [hw.stubs.releases, h.releases, hre, hctl]
    cases hr : retained cs with
    | none => simp [View.dead, hd]
    | some f =>
      by_cases hg : f = g
      · subst hg
        simp [View.dead, hd]
      · simp [View.dead, hd, hg]
  · rw [hw.series, h.series, hcause, hnone, h.registry]
    by_cases hc : c' = c
    · subst hc
      simp
    · simp [hc, Ne.symm hc, Cause.reason_inj]

/-- On a provider already destroyed, an event that retains and dispatches nothing keeps the books. -/
theorem ending_dead (h : Ledger kind w₀ v w cs) (hd : v.destroyed = true) {e : LifeEvent}
    (hret : e.retains = none) (hdis : e ≠ .dispatch)
    (hrep : ∀ b, e.reply = some b → Owed w₀ w' cs b)
    (hun : retained cs = none → e.reply = none)
    (hf : Frame v.cont (fun _ => 0) (fun _ => 0) w w') :
    Ledger kind w₀ v w' (cs ++ [e]) := by
  have h' := h.frame hf
  have hsome : (cause cs).isSome = true := h.destroyed ▸ hd
  obtain ⟨c, hc⟩ := Option.isSome_iff_exists.mp hsome
  refine h'.retrace (by simp [cause_append, hc]) (by simp [retained_append, hret]) (by simp [hdis])
    (fun hn => by simp [(h.unretained hn).2, hun hn]) (h'.answered.snoc hret hrep)

end Ledger

end Scenario

end HostDispatch
