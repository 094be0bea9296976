import HostDispatch.Proofs.Timer.Grid
import HostDispatch.Proofs.Cron.Activations
import HostDispatch.Proofs.Dispatch.Feed
import HostDispatch.Proofs.Dispatch.Liveness
import HostDispatch.Proofs.Timer.Lifecycle
import HostDispatch.Proofs.Cron.Lifecycle

/-!
# The scenario's advance as a derivation

`Takes` is the exact trace of the scenario's advance loop: the firings the clock hands out, each
with the fuel its delivery ran with and the worlds around its handler. The loop's successful runs
are exactly its traces (`firings_ok_iff`, `advanceTo_ok_iff`), and a run has one trace
(`Takes.unique`).

The relations that describe a provider or a controller inside a scenario leave the rest of the
scenario open. A trace is a derivation of each of them once every firing in it is one the
relation allows, as the provider sees it: `Firings` and `Session` for a timer, `CronFirings` and
`CronSession` for a cron task, `TimerLife` and `CronLife` for a provider's life, and `Feed` for a
timer fed to a publisher. A dispatch through a made controller is a call of a `ControllerRun`.
-/

namespace HostDispatch

namespace Scenario

/-- A firing the advance took: the firing, the fuel its delivery ran with, the world the delivery
started in (the clock having taken the firing), whether a handler ran, and the world it left. -/
structure Taken where
  firing : Firing
  fuel : Nat
  start : World
  ran : Bool
  finish : World

/-- The firings the advance to `target` takes with fuel `n` from `w` to `w'`: the clock takes the
next firing due and delivers it with the fuel left, until nothing is due and the advance ends. -/
inductive Takes (target : Time) : Nat → World → List Taken → World → Prop
  | finish {n : Nat} {w : World} : w.clock.takeDue target = none →
      Takes target (n + 1) w [] { w with clock := w.clock.finishAdvance target }
  | take {n : Nat} {w W w' : World} {f : Firing} {k : Clock} {b : Bool} {xs : List Taken} :
      w.clock.takeDue target = some (f, k) → (deliver n f).run { w with clock := k } = .ok b W →
      Takes target n W xs w' →
      Takes target (n + 1) w (⟨f, n, { w with clock := k }, b, W⟩ :: xs) w'

theorem panic_run {α : Type} (m : String) (w : World) :
    (panic m : Sim α).run w = .error (.panic m) w := rfl

theorem exhausted_run {α : Type} (w : World) :
    (exhausted : Sim α).run w =
      .error (.panic "runtime: goroutine stack exceeds 1000000000-byte limit") w := rfl

/-- The advance's loop returns exactly along a trace, answering the handlers it ran on top of those
it started with. -/
theorem firings_ok_iff {n : Nat} {target : Time} {d r : Nat} {w w' : World} :
    (firings n target d).run w = .ok r w' ↔
      ∃ xs, Takes target n w xs w' ∧ r = d + xs.countP Taken.ran := by
  induction n generalizing d w with
  | zero =>
    refine ⟨fun h => ?_, fun ⟨xs, hxs, _⟩ => nomatch hxs⟩
    rw [firings, exhausted_run] at h
    cases h
  | succ n ih =>
    constructor
    · intro h
      rw [firings] at h
      cases ht : w.clock.takeDue target with
      | none =>
        simp only [run_bind, get_run, ht, modifyClock, modify_run, pure_run] at h
        cases h
        exact ⟨[], .finish ht, by simp⟩
      | some fk =>
        obtain ⟨f, k⟩ := fk
        simp only [run_bind, get_run, ht, modifyClock, modify_run] at h
        cases hd : (deliver n f).run { w with clock := k } with
        | error e W =>
          rw [hd] at h
          cases h
        | ok b W =>
          rw [hd] at h
          obtain ⟨xs, hxs, hr⟩ := ih.mp h
          refine ⟨_, .take ht hd hxs, ?_⟩
          cases b <;> simp [hr]
          omega
    · rintro ⟨xs, hxs, rfl⟩
      rw [firings]
      cases hxs with
      | finish ht => simp [ht, modifyClock]
      | @take _ _ _ _ _ _ b _ ht hd hxs =>
        simp only [run_bind, get_run, ht, modifyClock, modify_run, hd]
        refine ih.mpr ⟨_, hxs, ?_⟩
        cases b <;> simp
        omega

/-- An advance returns exactly when the clock was not advancing and the loop runs along a trace
from the clock marked as advancing. -/
theorem advanceTo_ok_iff {n : Nat} {target : Time} {r : Nat} {w w' : World} :
    (advanceTo (n + 1) target).run w = .ok r w' ↔
      ∃ k xs, w.clock.beginAdvance = some k ∧ Takes target n { w with clock := k } xs w' ∧
        r = xs.countP Taken.ran := by
  rw [advanceTo]
  cases hb : w.clock.beginAdvance with
  | none => simp [hb, panic_run]
  | some k =>
    simp only [run_bind, get_run, hb, modifyClock, modify_run, firings_ok_iff, Option.some.injEq]
    simp

/-- The advance's trace is determined by the world it starts from and its fuel. -/
theorem Takes.unique {target : Time} {n : Nat} {w w₁ w₂ : World} {xs ys : List Taken}
    (h₁ : Takes target n w xs w₁) (h₂ : Takes target n w ys w₂) : xs = ys ∧ w₁ = w₂ := by
  induction h₁ generalizing ys with
  | finish ht =>
    cases h₂ with
    | finish => exact ⟨rfl, rfl⟩
    | take ht' => rw [ht] at ht'; cases ht'
  | take ht hd _ ih =>
    cases h₂ with
    | finish ht' => rw [ht] at ht'; cases ht'
    | take ht' hd' h₂ =>
      rw [ht] at ht'
      cases ht'
      rw [hd] at hd'
      cases hd'
      obtain ⟨rfl, rfl⟩ := ih h₂
      exact ⟨rfl, rfl⟩

/-! ## What a delivery that returns did -/

section Deliver

variable {n : Nat} {f : Firing} {w w' : World} {b : Bool}

theorem deliver_fuel (h : (deliver n f).run w = .ok b w') : ∃ m, n = m + 1 := by
  cases n with
  | zero =>
    rw [deliver, exhausted_run] at h
    cases h
  | succ m => exact ⟨m, rfl⟩

/-- A delivery of a destroyed continuation's firing runs nothing. -/
theorem deliver_ok_destroyed (hd : w.clock.isDestroyed f.cont = true)
    (h : (deliver n f).run w = .ok b w') : b = false ∧ w' = w := by
  obtain ⟨m, rfl⟩ := deliver_fuel h
  rw [deliver_destroyed hd] at h
  cases h
  exact ⟨rfl, rfl⟩

/-- A delivery of a live continuation that the timer in slot `p` owns is the timer's firing. -/
theorem deliver_ok_timer {p : Nat} (hd : w.clock.isDestroyed f.cont = false)
    (ho : w.owners.getD (f.cont - 1) default = .timer p) (h : (deliver n f).run w = .ok b w') :
    ∃ m, n = m + 1 ∧ (fireTimer (dispatch m) p).run w = .ok () w' := by
  obtain ⟨m, rfl⟩ := deliver_fuel h
  refine ⟨m, rfl, ?_⟩
  rw [deliver] at h
  simp only [run_bind, get_run, hd, Bool.false_eq_true, if_false, ho] at h
  cases hr : (fireTimer (dispatch m) p).run w with
  | ok u W =>
    rw [hr] at h
    cases h
    rfl
  | error e W =>
    rw [hr] at h
    cases h

/-- A delivery of a live continuation that the cron task in slot `p` owns is the task's firing. -/
theorem deliver_ok_cron {p : Nat} (hd : w.clock.isDestroyed f.cont = false)
    (ho : w.owners.getD (f.cont - 1) default = .cron p) (h : (deliver n f).run w = .ok b w') :
    ∃ m, n = m + 1 ∧ (fireCron (dispatch m) p).run w = .ok () w' := by
  obtain ⟨m, rfl⟩ := deliver_fuel h
  refine ⟨m, rfl, ?_⟩
  rw [deliver] at h
  simp only [run_bind, get_run, hd, Bool.false_eq_true, if_false, ho] at h
  cases hr : (fireCron (dispatch m) p).run w with
  | ok u W =>
    rw [hr] at h
    cases h
    rfl
  | error e W =>
    rw [hr] at h
    cases h

/-- A timer's firing that returns stopped before its dispatch, or dispatched and ran on. -/
theorem fireTimer_ok {dispatch : ControllerRef → Sim Bool} {p : Nat}
    (h : (fireTimer dispatch p).run w = .ok () w') :
    (firingPrefix p).run w = .ok none w' ∨ ∃ t' c W, (firingPrefix p).run w = .ok (some (t', c)) W ∧
      (firingTail dispatch p t' c).run W = .ok () w' := by
  rw [fireTimer_eq, run_bind] at h
  cases hpre : (firingPrefix p).run w with
  | error e W =>
    rw [hpre] at h
    cases h
  | ok o W =>
    rw [hpre] at h
    rcases o with _ | ⟨t', c⟩
    · cases h
      exact .inl rfl
    · exact .inr ⟨t', c, W, rfl, h⟩

/-- A cron task's firing that returns stopped before its dispatch, or dispatched and ran on. -/
theorem fireCron_ok {dispatch : ControllerRef → Sim Bool} {p : Nat}
    (h : (fireCron dispatch p).run w = .ok () w') :
    (cronFiringPrefix p).run w = .ok none w' ∨
      ∃ t' c W, (cronFiringPrefix p).run w = .ok (some (t', c)) W ∧
        (cronFiringTail dispatch p t' c).run W = .ok () w' := by
  rw [fireCron_eq, run_bind] at h
  cases hpre : (cronFiringPrefix p).run w with
  | error e W =>
    rw [hpre] at h
    cases h
  | ok o W =>
    rw [hpre] at h
    rcases o with _ | ⟨t', c⟩
    · cases h
      exact .inl rfl
    · exact .inr ⟨t', c, W, rfl, h⟩

/-- The tail of a timer's firing that returns got an answer from its dispatch. -/
theorem firingTail_ok {dispatch : ControllerRef → Sim Bool} {p : Nat} {t : TimerTask}
    {c : ControllerRef} (h : (firingTail dispatch p t c).run w = .ok () w') :
    ∃ a W, (dispatch c).run w = .ok a W := by
  simp only [firingTail, run_bind] at h
  cases hd : (dispatch c).run w with
  | ok a W => exact ⟨a, W, rfl⟩
  | error e W =>
    rw [hd] at h
    cases h

/-- The tail of a cron task's firing that returns got an answer from its dispatch. -/
theorem cronFiringTail_ok {dispatch : ControllerRef → Sim Bool} {p : Nat} {t : CronTask}
    {c : ControllerRef} (h : (cronFiringTail dispatch p t c).run w = .ok () w') :
    ∃ a W, (dispatch c).run w = .ok a W := by
  simp only [cronFiringTail, run_bind] at h
  cases hd : (dispatch c).run w with
  | ok a W => exact ⟨a, W, rfl⟩
  | error e W =>
    rw [hd] at h
    cases h

end Deliver

/-! ## The timer's view -/

/-- How the timer in slot `p` sees a firing the advance took, as `Firings` allows: its
continuation destroyed; of another continuation, with a handler that does what the rest of the
scenario may do; or of the timer's own continuation, which the timer owns, with a receiver that
answers yes and does what the rest of the scenario may do once the timer dispatches. -/
inductive TimerSees (p : Nat) : Taken → Prop
  | dropped {x : Taken} : x.start.clock.isDestroyed x.firing.cont = true → TimerSees p x
  | other {x : Taken} :
      (∀ t g, x.start.providers[p]? = some ⟨.timer t, g⟩ → x.firing.cont ≠ t.cont) →
      Around p x.start x.finish → TimerSees p x
  | own {x : Taken} :
      (∃ t g, x.start.providers[p]? = some ⟨.timer t, g⟩ ∧ x.firing.cont = t.cont) →
      x.start.owners.getD (x.firing.cont - 1) default = .timer p →
      (∀ t' c W, (firingPrefix p).run x.start = .ok (some (t', c)) W → Around p W x.finish) →
      TimerSees p x

/-- A trace of the advance in which the timer sees every firing as `Firings` allows is a
derivation of `Firings`. -/
theorem Takes.firings {p : Nat} {target : Time} {n : Nat} {w w' : World} {xs : List Taken}
    (h : Takes target n w xs w') (hx : ∀ x ∈ xs, TimerSees p x) :
    ∃ ds, Firings p target w ds w' := by
  induction h with
  | finish ht => exact ⟨[], .finish ht⟩
  | @take n w W w' f k b xs ht hd _ ih =>
    obtain ⟨ds, hds⟩ := ih fun x hx' => hx x (List.mem_cons_of_mem _ hx')
    -- a dropped firing leaves the world as the clock left it
    have hdrop : k.isDestroyed f.cont = true → ∃ ds, Firings p target w ds w' := fun hdes => by
      obtain ⟨-, rfl⟩ := deliver_ok_destroyed hdes hd
      exact ⟨ds, .dropped ht hdes hds⟩
    cases hx _ List.mem_cons_self with
    | dropped hdes => exact hdrop hdes
    | other hne ha => exact ⟨ds, .other ht hne ha hds⟩
    | own hslot ho hyes =>
      cases hdes : k.isDestroyed f.cont
      · obtain ⟨m, -, hfire⟩ := deliver_ok_timer hdes ho hd
        rcases fireTimer_ok hfire with hpre | ⟨t', c, W₁, hpre, -⟩
        · exact ⟨ds, .quiet ht hdes hslot hpre hds⟩
        · exact ⟨_, .dispatch ht hdes hslot hpre (hyes t' c W₁ hpre) hds⟩
      · exact hdrop hdes

/-- An advance of the scenario, from the clock it marked as advancing, in which the timer sees
every firing as `Firings` allows is a session of that one advance. -/
theorem Takes.session {p : Nat} {target : Time} {n : Nat} {w w' : World} {k : Clock}
    {xs : List Taken} (hb : w.clock.beginAdvance = some k)
    (h : Takes target n { w with clock := k } xs w') (hx : ∀ x ∈ xs, TimerSees p x) :
    ∃ ds, Session p w [target] ds w' := by
  obtain ⟨ds, hds⟩ := h.firings hx
  exact ⟨ds ++ [], .advance hb hds (.nil w')⟩

/-- An advance of the scenario that returns ran along its trace, and is a session of one advance
for the timer in slot `p` when the timer sees every firing of it as `Firings` allows. -/
theorem advanceTo_session {p n : Nat} {target : Time} {r : Nat} {w w' : World}
    (h : (advanceTo (n + 1) target).run w = .ok r w') :
    ∃ k xs, Takes target n { w with clock := k } xs w' ∧
      ((∀ x ∈ xs, TimerSees p x) → ∃ ds, Session p w [target] ds w') := by
  obtain ⟨k, xs, hb, hxs, -⟩ := advanceTo_ok_iff.mp h
  exact ⟨k, xs, hxs, hxs.session hb⟩

/-! ## The cron task's view -/

/-- How the cron task in slot `p` sees a firing the advance took, as `CronFirings` allows: its
continuation destroyed; of another continuation, with a handler that does what the rest of the
scenario may do; or of the task's own continuation, which the task owns, with a receiver that
answers yes and does what the rest of the scenario may do once the task dispatches. -/
inductive CronSees (p : Nat) : Taken → Prop
  | dropped {x : Taken} : x.start.clock.isDestroyed x.firing.cont = true → CronSees p x
  | other {x : Taken} :
      (∀ v, x.start.providers[p]? = some v → x.firing.cont ≠ v.task.cont) →
      Beside p x.start x.finish → CronSees p x
  | own {x : Taken} :
      (∃ t g, x.start.providers[p]? = some ⟨.cron t, g⟩ ∧ x.firing.cont = t.cont) →
      x.start.owners.getD (x.firing.cont - 1) default = .cron p →
      (∀ t' c W, (cronFiringPrefix p).run x.start = .ok (some (t', c)) W → Beside p W x.finish) →
      CronSees p x

/-- A trace of the advance in which the cron task sees every firing as `CronFirings` allows is a
derivation of `CronFirings`. -/
theorem Takes.cronFirings {p : Nat} {target : Time} {n : Nat} {w w' : World} {xs : List Taken}
    (h : Takes target n w xs w') (hx : ∀ x ∈ xs, CronSees p x) :
    ∃ ds, CronFirings p target w ds w' := by
  induction h with
  | finish ht => exact ⟨[], .finish ht⟩
  | @take n w W w' f k b xs ht hd _ ih =>
    obtain ⟨ds, hds⟩ := ih fun x hx' => hx x (List.mem_cons_of_mem _ hx')
    have hdrop : k.isDestroyed f.cont = true → ∃ ds, CronFirings p target w ds w' := fun hdes => by
      obtain ⟨-, rfl⟩ := deliver_ok_destroyed hdes hd
      exact ⟨ds, .dropped ht hdes hds⟩
    cases hx _ List.mem_cons_self with
    | dropped hdes => exact hdrop hdes
    | other hne hb => exact ⟨ds, .other ht hne hb hds⟩
    | own hslot ho hyes =>
      cases hdes : k.isDestroyed f.cont
      · obtain ⟨m, -, hfire⟩ := deliver_ok_cron hdes ho hd
        rcases fireCron_ok hfire with hpre | ⟨t', c, W₁, hpre, -⟩
        · exact ⟨ds, .quiet ht hdes hslot hpre hds⟩
        · exact ⟨_, .dispatch ht hdes hslot hpre (hyes t' c W₁ hpre) hds⟩
      · exact hdrop hdes

/-- An advance of the scenario, from the clock it marked as advancing, in which the cron task sees
every firing as `CronFirings` allows is a cron session of that one advance. -/
theorem Takes.cronSession {p : Nat} {target : Time} {n : Nat} {w w' : World} {k : Clock}
    {xs : List Taken} (hb : w.clock.beginAdvance = some k)
    (h : Takes target n { w with clock := k } xs w') (hx : ∀ x ∈ xs, CronSees p x) :
    ∃ ds, CronSession p w [target] ds w' := by
  obtain ⟨ds, hds⟩ := h.cronFirings hx
  exact ⟨ds ++ [], .advance hb hds (.nil w')⟩

/-- An advance of the scenario that returns ran along its trace, and is a cron session of one
advance for the task in slot `p` when the task sees every firing of it as `CronFirings` allows. -/
theorem advanceTo_cronSession {p n : Nat} {target : Time} {r : Nat} {w w' : World}
    (h : (advanceTo (n + 1) target).run w = .ok r w') :
    ∃ k xs, Takes target n { w with clock := k } xs w' ∧
      ((∀ x ∈ xs, CronSees p x) → ∃ ds, CronSession p w [target] ds w') := by
  obtain ⟨k, xs, hb, hxs, -⟩ := advanceTo_ok_iff.mp h
  exact ⟨k, xs, hxs, hxs.cronSession hb⟩

/-! ## A fed timer's view -/

section Feed

variable {p cont k q r : Nat}

/-- What the rest of a scenario may do around a fed timer covers the clock taking a firing first:
the clock's destroyed continuations stay as they are. -/
theorem Alongside.of_take {w W : World} {target : Time} {f : Firing} {c : Clock}
    (ht : w.clock.takeDue target = some (f, c)) (h : Alongside p cont k q r { w with clock := c } W) :
    Alongside p cont k q r w W := by
  have hd := Clock.takeDue_destroyed ht
  refine { h with live := ?_, conts := ?_ }
  · exact h.live.trans (Clock.isDestroyed_congr hd cont)
  · simpa [hd] using h.conts

/-- How a timer fed to publisher `r` sees a firing the advance took, as `Feed` allows: of its
continuation `cont`, delivered with fuel enough for the receiver to run; or a firing whose
delivery does what the rest of the scenario may do. -/
inductive FeedSees (p cont k q r : Nat) : Taken → Prop
  | fire {x : Taken} : x.firing.cont = cont → 3 ≤ x.fuel → FeedSees p cont k q r x
  | beside {x : Taken} : Alongside p cont k q r x.start x.finish → FeedSees p cont k q r x

/-- A trace of the advance in which a fed timer sees every firing as `Feed` allows is a derivation
of `Feed` up to the world the advance ends from, which only moves the clock to the target. -/
theorem Takes.feed {target : Time} {n : Nat} {w w' : World} {xs : List Taken}
    (h : Takes target n w xs w') (hx : ∀ x ∈ xs, FeedSees p cont k q r x) :
    ∃ w₀ ss, Feed p cont k q r w ss w₀ ∧
      w' = { w₀ with clock := w₀.clock.finishAdvance target } := by
  induction h with
  | @finish n w ht => exact ⟨w, [], .nil w, rfl⟩
  | @take n w W w' f c b xs ht hd _ ih =>
    obtain ⟨w₀, ss, hss, hend⟩ := ih fun x hx' => hx x (List.mem_cons_of_mem _ hx')
    cases hx _ List.mem_cons_self with
    | fire hf hn =>
      obtain ⟨m, rfl⟩ : ∃ m, n = m + 3 := ⟨n - 3, by simp only at hn; omega⟩
      rw [← after_of_ok hd] at hss
      exact ⟨w₀, _, .fire ht hf hss, hend⟩
    | beside hb => exact ⟨w₀, ss, .beside (hb.of_take ht) hss, hend⟩

/-- The end of an advance is something the rest of the scenario may do around a fed timer, in a
world whose books are kept. -/
theorem alongside_finishAdvance {w : World} (ho : Owned w) (ht : Tracked r w) (target : Time) :
    Alongside p cont k q r w { w with clock := w.clock.finishAdvance target } :=
  { slot := rfl, owner := rfl, live := rfl, conts := le_refl _, controller := rfl, promise := rfl,
    publisher := fun v hv => ⟨v, hv, Publisher.Kept.refl v, id⟩,
    owned := ⟨ho.valid, ho.apart, ho.refs, ho.closed⟩, tracked := ht }

end Feed

/-! ## A controller's view -/

/-- A dispatch of the scenario through made controller `k` is one call of a run on the controller:
it enters, finding the controller live or not, runs the receiver's own calls nested in it if the
controller is live, and leaves with its answer; given that the receiver's calls, when it runs,
form a run. -/
theorem ControllerRun.of_dispatch {n k q : Nat} {w w' : World} {b : Bool}
    (hd : (dispatch (n + 1) (.made k)).run w = .ok b w')
    (hinner : liveAt k w = true → ∃ inner, ControllerRun k q w inner (after (receive n k) w)) :
    ∃ o inner, ControllerRun k q w (.enter (liveAt k w) :: inner ++ [.leave o b]) w' := by
  rw [dispatch] at hd
  cases hl : liveAt k w
  · exact ⟨.gone, [], .gone hl hd (.nil w')⟩
  obtain ⟨inner, hrun⟩ := hinner hl
  cases hr : (receive n k).run w with
  | ok u w₁ =>
    rw [after_of_ok hr] at hrun
    exact ⟨.delivered, inner, .delivered hl hrun hr hd (.nil w')⟩
  | error e w₁ =>
    rw [after, hr] at hrun
    cases e with
    | panic m => exact ⟨.panic, inner, .panicked hl hrun hr hd (.nil w')⟩
    | badInput m =>
      -- a receiver that fails on its input is not recovered: the dispatch fails too
      obtain ⟨c, hk, hc⟩ : ∃ c, w.controllers[k]? = some c ∧ c.live = true := by
        cases hk : w.controllers[k]? <;> simp_all [liveAt]
      simp only [dispatchMade, run_bind, controller_run hk, hc, Bool.not_true, Bool.false_eq_true,
        Bool.and_false, if_false, tryCatch_run, hr] at hd
      cases hd

/-! ## A provider's life -/

section Life

variable {p : Nat}

/-- A step that only moves the clock, keeping the actions pending on the continuation of the
provider in slot `p`, the destroyed continuations and the count of them, is a step elsewhere. -/
theorem elsewhere_clock {w : World} {c : Clock}
    (hpend : ∀ v, w.providers[p]? = some v → c.pendingOn v.task.cont = w.clock.pendingOn v.task.cont)
    (hd : c.destroyed = w.clock.destroyed) (hs : c.stats.destroyed = w.clock.stats.destroyed) :
    Elsewhere p w { w with clock := c } :=
  ⟨rfl, hpend, fun _ _ => Frame.of_quiet ⟨hd, hs⟩ ⟨rfl, rfl, fun _ => rfl⟩⟩

/-- The clock taking a firing of another continuation than the provider's is a step elsewhere. -/
theorem elsewhere_take {w : World} {target : Time} {f : Firing} {c : Clock}
    (ht : w.clock.takeDue target = some (f, c))
    (hne : ∀ v, w.providers[p]? = some v → f.cont ≠ v.task.cont) :
    Elsewhere p w { w with clock := c } := by
  obtain ⟨q, -, rfl⟩ := Clock.takeDue_eq_some.mp ht
  exact elsewhere_clock (fun v hv => (Clock.takeDue_aside ht (hne v hv).symm).pending) rfl rfl

/-- The end of an advance is a step elsewhere. -/
theorem elsewhere_finishAdvance (w : World) (target : Time) :
    Elsewhere p w { w with clock := w.clock.finishAdvance target } :=
  elsewhere_clock (fun _ _ => rfl) rfl rfl

/-- How the timer in slot `p` sees a firing the advance took, as `TimerLife` allows: of its own
continuation, which it owns while that is live, with a stand-in as the controller it dispatches
to, whose nested calls are part of the timer's life; or of another continuation, with a handler
that is a step elsewhere. -/
inductive LifeSees (p : Nat) : Taken → Prop
  | own {x : Taken} {t : TimerTask} {g : Gate} :
      x.start.providers[p]? = some ⟨.timer t, g⟩ → x.firing.cont = t.cont →
      (x.start.clock.isDestroyed x.firing.cont = false →
        x.start.owners.getD (x.firing.cont - 1) default = .timer p) →
      (∀ t' c W, (firingPrefix p).run x.start = .ok (some (t', c)) W →
        ∃ fi, c = .stub fi ∧ ∀ b W₂, (dispatch (x.fuel - 1) c).run W = .ok b W₂ →
          ∃ inner, TimerLife p false (after (stubCall fi) W) inner W₂) →
      LifeSees p x
  | elsewhere {x : Taken} :
      (∀ v, x.start.providers[p]? = some v → x.firing.cont ≠ v.task.cont) →
      Elsewhere p x.start x.finish → LifeSees p x

/-- A dispatch that returns ran with fuel to spare. -/
theorem dispatch_fuel {n : Nat} {c : ControllerRef} {w w' : World} {b : Bool}
    (h : (dispatch n c).run w = .ok b w') : ∃ m, n = m + 1 := by
  cases n with
  | zero =>
    rw [dispatch, exhausted_run] at h
    cases h
  | succ m => exact ⟨m, rfl⟩

/-- A trace of the advance in which the timer sees every firing as `TimerLife` allows is part of
the timer's life at the top. -/
theorem Takes.timerLife {target : Time} {n : Nat} {w w' : World} {xs : List Taken}
    (h : Takes target n w xs w') (hx : ∀ x ∈ xs, LifeSees p x) :
    ∃ cs, TimerLife p true w cs w' := by
  induction h with
  | @finish n w ht => exact ⟨[], .elsewhere (elsewhere_finishAdvance w target) .nil⟩
  | @take n w W w' f k b xs ht hd _ ih =>
    obtain ⟨cs, hcs⟩ := ih fun x hx' => hx x (List.mem_cons_of_mem _ hx')
    cases hx _ List.mem_cons_self with
    | elsewhere hne he => exact ⟨cs, .elsewhere (elsewhere_take ht hne) (.elsewhere he hcs)⟩
    | @own t g hslot hf ho hstub =>
      cases hdes : k.isDestroyed f.cont
      · obtain ⟨m, rfl, hfire⟩ := deliver_ok_timer hdes (ho hdes) hd
        rcases fireTimer_ok hfire with hpre | ⟨t', c, W₁, hpre, htail⟩
        · exact ⟨cs, .silent target hslot ht hf hdes hpre hcs⟩
        · obtain ⟨fi, rfl, hinner⟩ := hstub t' _ W₁ hpre
          obtain ⟨a, W₂, hdisp⟩ := firingTail_ok htail
          obtain ⟨m, rfl⟩ := dispatch_fuel hdisp
          obtain ⟨inner, hin⟩ := hinner a W₂ hdisp
          rw [← after_of_ok hfire] at hcs
          exact ⟨_, .fire target m hslot ht hf hdes hpre hin hdisp hcs⟩
      · obtain ⟨-, rfl⟩ := deliver_ok_destroyed hdes hd
        exact ⟨cs, .drop target hslot ht hf hdes hcs⟩

/-- How the cron task in slot `p` sees a firing the advance took, as `CronLife` allows: of its own
continuation, which it owns while that is live, with a stand-in as the controller it dispatches
to, whose nested calls are part of the task's life; or of another continuation, with a handler
that is a step elsewhere and may cancel actions. -/
inductive CronLifeSees (p : Nat) : Taken → Prop
  | own {x : Taken} {t : CronTask} {g : Gate} :
      x.start.providers[p]? = some ⟨.cron t, g⟩ → x.firing.cont = t.cont →
      (x.start.clock.isDestroyed x.firing.cont = false →
        x.start.owners.getD (x.firing.cont - 1) default = .cron p) →
      (∀ t' c W, (cronFiringPrefix p).run x.start = .ok (some (t', c)) W →
        ∃ fi, c = .stub fi ∧ ∀ b W₂, (dispatch (x.fuel - 1) c).run W = .ok b W₂ →
          ∃ inner, CronLife p false (after (stubCall fi) W) inner W₂) →
      CronLifeSees p x
  | elsewhere {x : Taken} :
      (∀ v, x.start.providers[p]? = some v → x.firing.cont ≠ v.task.cont) →
      Elsewhere p x.start x.finish →
      x.start.clock.stats.canceled ≤ x.finish.clock.stats.canceled →
      x.start.clock.stats.cancelMisuse ≤ x.finish.clock.stats.cancelMisuse → CronLifeSees p x

/-- A step elsewhere that cancels no action is a part of the cron task's life. -/
theorem CronLife.elsewhere_quiet {top : Bool} {w w₁ w' : World} {es : List CronEvent}
    (he : Elsewhere p w w₁) (hc : w₁.clock.stats.canceled = w.clock.stats.canceled)
    (hm : w₁.clock.stats.cancelMisuse = w.clock.stats.cancelMisuse)
    (h : CronLife p top w₁ es w') : CronLife p top w (.aside 0 0 :: es) w' :=
  .elsewhere 0 0 he hc hm h

/-- A trace of the advance in which the cron task sees every firing as `CronLife` allows is part
of the task's life at the top. -/
theorem Takes.cronLife {target : Time} {n : Nat} {w w' : World} {xs : List Taken}
    (h : Takes target n w xs w') (hx : ∀ x ∈ xs, CronLifeSees p x) :
    ∃ es, CronLife p true w es w' := by
  induction h with
  | @finish n w ht =>
    exact ⟨_, .elsewhere_quiet (elsewhere_finishAdvance w target) rfl rfl .nil⟩
  | @take n w W w' f k b xs ht hd _ ih =>
    obtain ⟨es, hes⟩ := ih fun x hx' => hx x (List.mem_cons_of_mem _ hx')
    cases hx _ List.mem_cons_self with
    | elsewhere hne he hc hm =>
      obtain ⟨dc, hdc⟩ := Nat.exists_eq_add_of_le hc
      obtain ⟨dm, hdm⟩ := Nat.exists_eq_add_of_le hm
      obtain ⟨q, -, rfl⟩ := Clock.takeDue_eq_some.mp ht
      exact ⟨_, .elsewhere_quiet (elsewhere_take ht hne) rfl rfl
        (.elsewhere dc dm he hdc hdm hes)⟩
    | @own t g hslot hf ho hstub =>
      cases hdes : k.isDestroyed f.cont
      · obtain ⟨m, rfl, hfire⟩ := deliver_ok_cron hdes (ho hdes) hd
        rcases fireCron_ok hfire with hpre | ⟨t', c, W₁, hpre, htail⟩
        · exact ⟨_, .silent target hslot ht hf hdes hpre hes⟩
        · obtain ⟨fi, rfl, hinner⟩ := hstub t' _ W₁ hpre
          obtain ⟨a, W₂, hdisp⟩ := cronFiringTail_ok htail
          obtain ⟨m, rfl⟩ := dispatch_fuel hdisp
          obtain ⟨inner, hin⟩ := hinner a W₂ hdisp
          rw [← after_of_ok hfire] at hes
          exact ⟨_, .fire target m hslot ht hf hdes hpre hin hdisp hes⟩
      · obtain ⟨-, rfl⟩ := deliver_ok_destroyed hdes hd
        exact ⟨es, .drop target hslot ht hf hdes hes⟩

end Life

end Scenario

end HostDispatch
