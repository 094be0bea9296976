import Mathlib
import HostDispatch.Proofs.Dispatch.Publish

/-!
# A timer that feeds a publisher

A periodic timer run with a controller whose receiver is a publisher, with the promise of its
execution tracked by that publisher, hands each firing to the publisher while the controller is
live. The publication that reaches no subscriber closes the tracker and with it the promise, which
disables the controller from inside the very dispatch that still answers yes. So the timer learns of
it one firing late: its next firing is refused, which destroys it, and any firing after that finds
its continuation destroyed.

`Feed` records the firings of such a timer among anything else a scenario does around it, and
`Feed.served` says that they serve exactly what the publisher's script says (`Publisher.served`).
-/

namespace HostDispatch

namespace Scenario

/-- What a firing of a timer's continuation did: it published through the receiver, meeting an
outcome; it was refused by a controller no longer live; or it was dropped, its continuation being
destroyed. -/
inductive Served where
  | published (outcome : Option Reply)
  | refused
  | dropped

/-- Whether a firing reached the receiver. -/
def Served.reached : Served → Bool
  | .published _ => true
  | _ => false

/-- The firings after the one that closed the tracker: the next is refused, the rest dropped. -/
def Served.afterClose : Nat → List Served
  | 0 => []
  | n + 1 => .refused :: List.replicate n .dropped

/-- What a firing of the timer's continuation `cont` serves in a world, fed to publisher `r` through
controller `k`: nothing once the continuation is destroyed, the publisher's next outcome while the
controller is live, and a refusal once it is not. -/
def servedIn (cont k r : Nat) (w : World) : Served :=
  if w.clock.isDestroyed cont then .dropped
  else if liveAt k w then .published ((w.publishers[r]?).bind Publisher.next)
  else .refused

end Scenario

namespace Publisher

open Scenario

/-- The firings of a timer feeding a publisher after `e` completions and `m` publications, as its
script has them: each publishes the next outcome until one closes the tracker, and the firings
after that go as `Served.afterClose` says. -/
def servedFrom (v : Publisher) : Nat → Nat → Nat → List Served
  | _, _, 0 => []
  | e, m, n + 1 =>
    .published (v.outcomeAt e m) ::
      if v.closesOn (v.outcomeAt e m) then Served.afterClose n
      else v.servedFrom (e + 1) (m + if (v.outcomeAt e m).isSome then 1 else 0) n

/-- The next `n` firings of a timer feeding the publisher. -/
def served (v : Publisher) (n : Nat) : List Served := v.servedFrom v.encoded v.messages.size n

theorem servedFrom_congr {v v' : Publisher} (ho : v'.outcomeAt = v.outcomeAt)
    (hc : v'.closesOn = v.closesOn) : v'.servedFrom = v.servedFrom := by
  funext e m n
  induction n generalizing e m with
  | zero => rfl
  | succ n ih => simp only [servedFrom, ho, hc, ih]

/-- A firing publishes the next outcome, and after one that does not close the tracker the
firings go on from the publisher it leaves. -/
theorem Completed.served {v v' : Publisher} (h : Completed v v') (n : Nat) :
    v.served (n + 1) = .published v.next ::
      if v.closesOn v.next then Served.afterClose n else v'.served n := by
  rw [Publisher.served, Publisher.served,
    servedFrom_congr (outcomeAt_congr h.replies h.encodeFailures) h.closesOn, h.encoded,
    h.messages]
  rfl

theorem Kept.served {v v' : Publisher} (h : Kept v v') : v'.served = v.served := by
  funext n
  rw [Publisher.served, Publisher.served,
    servedFrom_congr (outcomeAt_congr h.replies h.encodeFailures) h.closesOn, h.encoded,
    h.messages]

end Publisher

namespace Scenario

open Publisher

/-! ## What a firing leaves alone -/

theorem spares_count (f : Metrics.Family) (vs : List String) : Spares (count f vs) := fun _ => rfl

/-- A firing up to its dispatch goes through `timer`, `setTimer`, `log`, `gatedSchedule` and
`count` only, so it leaves alone what all of them leave alone. -/
theorem fixes_firingPrefix {β : Type} {π : World → β} (ht : ∀ p, Fixes π (timer p))
    (hs : ∀ p t, Fixes π (setTimer p t)) (hl : ∀ l s m fs, Fixes π (log l s m fs))
    (hg : ∀ p cont kind d, Fixes π (gatedSchedule p cont kind d))
    (hc : ∀ f vs, Fixes π (count f vs)) (p : Nat) : Fixes π (firingPrefix p) := by
  unfold firingPrefix
  refine Fixes.bind (ht p) fun t => ?_
  repeat' (first
    | exact fixes_pure _
    | refine Fixes.bind (ht _) fun _ => ?_
    | refine Fixes.bind (hs _ _) fun _ => ?_
    | refine Fixes.bind (hl _ _ _ _) fun _ => ?_
    | refine Fixes.bind (hg _ _ _ _) fun _ => ?_
    | refine Fixes.bind (hc _ _) fun _ => ?_
    | exact hs _ _
    | exact hc _ _
    | dsimp only
    | split)

/-- A firing up to its dispatch touches no controller and no execution. -/
theorem spares_firingPrefix (p : Nat) : Spares (firingPrefix p) :=
  fixes_firingPrefix spares_timer spares_setTimer spares_log spares_gatedSchedule spares_count p

/-- The publishers and the owners of continuations, which neither a timer's firing nor its
destruction touches. -/
def World.feedSide (w : World) : Array Publisher × Array Owner := (w.publishers, w.owners)

/-- A computation that touches no publisher and no owner of a continuation. -/
abbrev Feeds {α : Type} (x : Sim α) : Prop := Fixes World.feedSide x

theorem feeds_timer (p : Nat) : Feeds (timer p) := fun w => by rw [after_timer]

theorem feeds_setTimer (p : Nat) (t : TimerTask) : Feeds (setTimer p t) := fun w => by
  rw [after_setTimer]
  split <;> rfl

theorem feeds_log (l : Log.Logger) (s : Severity) (m : String) (fs : List Log.Field) :
    Feeds (log l s m fs) := fun w => by rw [after_log_lines]; rfl

theorem feeds_count (f : Metrics.Family) (vs : List String) : Feeds (count f vs) := fun _ => rfl

theorem feeds_gatedSchedule (p cont : Nat) (kind : Kind) (d : Int) :
    Feeds (gatedSchedule p cont kind d) := fun w => by
  simp only [after, gatedSchedule_run]
  cases w.providers[p]? <;> rfl

theorem feeds_cancelArmed (l : Log.Logger) (a : Nat) (withId : Bool) :
    Feeds (cancelArmed l a withId) := fun w => by
  simp only [after, cancelArmed, cancelAction, run_bind, get_run, set_run]
  cases (w.clock.cancel (some a)).1 with
  | ok u => rfl
  | error e => exact feeds_log _ _ _ _ _

theorem feeds_destroyCont (c : Option Nat) : Feeds (destroyCont c) := fun _ => rfl

theorem feeds_release (ref : ControllerRef) : Feeds (release ref) := fun w => by
  cases ref with
  | stub f =>
    by_cases hf : f < w.stubs.size
    · simp [release, hf, after, slot_run, World.feedSide]
    · simp [release, hf, after, slot, badInput_run]
  | made k =>
    by_cases hk : k < w.controllers.size
    · have hc : (controller k).run w = .ok w.controllers[k] w := by
        simp only [controller, run_bind, get_run, slot_run _ w hk]
      simp only [release, after_bind, hc, setController, modify_run]
      split
      · exact feeds_log _ _ _ _ _
      · rfl
    · simp [release, controller, hk, after, slot, badInput_run]

theorem feeds_firingPrefix (p : Nat) : Feeds (firingPrefix p) :=
  fixes_firingPrefix feeds_timer feeds_setTimer feeds_log feeds_gatedSchedule feeds_count p

theorem feeds_destroyTimer (p : Nat) (reason : String) : Feeds (destroyTimer p reason) := by
  rw [destroyTimer_eq]
  refine Fixes.bind (feeds_timer p) fun t => ?_
  split
  · exact fixes_pure _
  refine Fixes.bind ?_ fun _ => ?_
  · unfold dismantleTimer
    refine Fixes.bind (feeds_setTimer p _) fun _ => ?_
    cases t.initialAction <;> cases t.periodicAction <;> dsimp only
    all_goals
      repeat (first
        | exact feeds_destroyCont _
        | refine Fixes.bind (feeds_log _ _ _ _) fun _ => ?_
        | refine Fixes.bind (feeds_cancelArmed _ _ _) fun _ => ?_)
  · unfold settle
    cases t.controller with
    | none => exact feeds_count _ _
    | some c => exact Fixes.bind (feeds_release c) fun _ => feeds_count _ _

/-! ## A firing of the timer's continuation -/

/-- A firing of a destroyed continuation is dropped: nothing runs. -/
theorem deliver_destroyed {n : Nat} {f : Firing} {w : World}
    (hd : w.clock.isDestroyed f.cont = true) : (deliver (n + 1) f).run w = .ok false w := by
  rw [deliver]
  simp only [run_bind, get_run, hd, if_true, pure_run]

/-- A firing of a live continuation that a timer owns fires the timer. -/
theorem after_deliver_timer {n p : Nat} {f : Firing} {w : World}
    (hd : w.clock.isDestroyed f.cont = false) (ho : w.owners.getD (f.cont - 1) default = .timer p) :
    after (deliver (n + 1) f) w = after (fireTimer (dispatch n) p) w := by
  rw [deliver]
  simp only [after, run_bind, get_run, hd, Bool.false_eq_true, if_false, ho]
  cases (fireTimer (dispatch n) p).run w <;> rfl

/-- A receiver that is a publisher publishes. -/
theorem receive_publisher {n k r : Nat} {w : World} {c : Controller}
    (hk : w.controllers[k]? = some c) (hr : c.receiver = .publisher r) :
    (receive (n + 1) k).run w = (publish r).run w := by
  rw [receive]
  simp only [run_bind, controller_run hk, hr]

theorem TimerTask.firingAnswer_of_live {t : TimerTask} {g : Gate} {k : Clock} {c : ControllerRef}
    (hd : t.destroyed = false) (hc : t.controller = some c) :
    t.firingAnswer g k = some ((t.firingEffect g k).1, c) := by
  have hv := congrArg View.controller (TimerTask.firingEffect_view t g k)
  simp only [TimerTask.view] at hv
  simp [TimerTask.firingAnswer, hd, hv, hc]

/-! ## The stages of a fed timer -/

/-- The timer in slot `p` is live, on continuation `cont`, dispatching to controller `k`. -/
def TimerOn (p cont k : Nat) (w : World) : Prop :=
  ∃ t g, w.providers[p]? = some ⟨.timer t, g⟩ ∧ t.cont = cont ∧ t.destroyed = false ∧
    t.controller = some (.made k)

/-- Every slot tracked by publisher `r` is an execution slot. -/
def Tracked (r : Nat) (w : World) : Prop :=
  ∀ v ∈ w.publishers[r]?, ∀ q ∈ v.tracker.promises, q < w.executions.size

/-- A live timer on its continuation `cont`, which is live, made by the clock, and owned by the
timer. -/
structure OnCont (p cont k : Nat) (w : World) : Prop where
  timer : TimerOn p cont k w
  owner : w.owners.getD (cont - 1) default = .timer p
  live : w.clock.isDestroyed cont = false
  made : 0 < cont ∧ cont ≤ w.clock.destroyed.size

/-- A timer feeding publisher `r`: on its continuation, with a live controller `k` whose receiver is
the publisher and whose promise, in slot `q`, is open and tracked by the publisher, under kept
books. -/
structure Feeding (p cont k q r : Nat) (w : World) : Prop extends OnCont p cont k w where
  controller : ∃ c, w.controllers[k]? = some c ∧ c.receiver = .publisher r ∧ c.live = true
  promise : w.promiseAt q = some ⟨k, false⟩
  publisher : ∃ v, w.publishers[r]? = some v ∧ q ∈ v.tracker.promises
  owned : Owned w
  tracked : Tracked r w

/-- A timer whose publisher has closed its promise: still on its continuation, with a silent
controller. -/
structure Stopped (p cont k q r : Nat) (w : World) : Prop extends OnCont p cont k w where
  silent : Silent k q w
  publisher : ∃ v, w.publishers[r]? = some v

/-- A timer destroyed, with its continuation. -/
structure Gone (p cont r : Nat) (w : World) : Prop where
  timer : ∃ t g, w.providers[p]? = some ⟨.timer t, g⟩ ∧ t.destroyed = true
  dead : w.clock.isDestroyed cont = true
  publisher : ∃ v, w.publishers[r]? = some v

/-- The firing of a live timer on its continuation runs up to a dispatch to its controller: it
touches no controller, execution, publisher or owner, and leaves the timer live on its
continuation. -/
theorem OnCont.firingPrefix {p cont k : Nat} {w : World} (h : OnCont p cont k w) :
    ∃ t W, (firingPrefix p).run w = .ok (some (t, .made k)) W ∧ OnCont p cont k W ∧
      W.controllers = w.controllers ∧ W.executions = w.executions ∧
      W.publishers = w.publishers := by
  obtain ⟨t, g, hp, hcont, hd, hc⟩ := h.timer
  obtain ⟨W, hrun, hWp, hWc⟩ := firingPrefix_effect hp
  rw [TimerTask.firingAnswer_of_live hd hc] at hrun
  have hside := (spares_firingPrefix p).of_run_ok hrun
  have hfeed := (feeds_firingPrefix p).of_run_ok hrun
  simp only [World.executionSide, World.feedSide, Prod.mk.injEq] at hside hfeed
  -- the firing keeps what the timer is and the continuations the clock has
  have hv := TimerTask.firingEffect_view t g w.clock
  simp only [TimerTask.view, View.mk.injEq] at hv
  have hsame := TimerTask.firingEffect_sameConts t g w.clock
  refine ⟨_, W, hrun, ⟨⟨_, _, hWp, hv.2.2.2.trans hcont, hv.1.trans hd, hv.2.2.1.trans hc⟩,
    hfeed.2 ▸ h.owner, ?_, ?_⟩, hside.1, hside.2, hfeed.1⟩
  · rw [hWc, Clock.isDestroyed_congr hsame.1]
    exact h.live
  · rw [hWc, hsame.1]
    exact h.made

theorem Owned.congr {w w' : World} (ho : Owned w) (hc : w'.controllers = w.controllers)
    (he : w'.executions = w.executions) : Owned w' := by
  have hp : w'.promiseAt = w.promiseAt := by
    funext q
    simp only [World.promiseAt, he]
  exact ⟨by simpa [hp, hc] using ho.valid, by simpa [hp] using ho.apart,
    by simpa [hc] using ho.refs, by simpa [hp, hc] using ho.closed⟩

theorem OnCont.congr {p cont k : Nat} {w w' : World} (h : OnCont p cont k w)
    (hp : w'.providers = w.providers) (ho : w'.owners = w.owners) (hc : w'.clock = w.clock) :
    OnCont p cont k w' :=
  ⟨by simpa [TimerOn, hp] using h.timer, ho ▸ h.owner, hc ▸ h.live, hc ▸ h.made⟩

/-- A firing of the timer's continuation fires the timer up to its dispatch to the controller, and
then runs the rest of the firing. -/
theorem OnCont.deliver {p cont k : Nat} {w : World} (h : OnCont p cont k w) {f : Firing}
    (hf : f.cont = cont) (n : Nat) :
    ∃ t W, after (deliver (n + 1) f) w = after (firingTail (dispatch n) p t (.made k)) W ∧
      OnCont p cont k W ∧ W.controllers = w.controllers ∧ W.executions = w.executions ∧
      W.publishers = w.publishers := by
  obtain ⟨t, W, hrun, hW, hc, he, hpub⟩ := h.firingPrefix
  refine ⟨t, W, ?_, hW, hc, he, hpub⟩
  rw [after_deliver_timer (hf ▸ h.live) (hf ▸ h.owner), fireTimer_eq, after_bind_ok hrun]

/-- A firing of a feeding timer publishes the publisher's next outcome and answers yes. The timer
goes on feeding, unless the outcome closed the tracker: then the promise is closed and the
controller silent. -/
theorem Feeding.fire {p cont k q r : Nat} {w : World} (h : Feeding p cont k q r w) {v : Publisher}
    (hv : w.publishers[r]? = some v) {f : Firing} (hf : f.cont = cont) (n : Nat) :
    servedIn cont k r w = .published v.next ∧
      ∃ v', Completed v v' ∧ (after (deliver (n + 3) f) w).publishers[r]? = some v' ∧
        if v.closesOn v.next then Stopped p cont k q r (after (deliver (n + 3) f) w)
        else Feeding p cont k q r (after (deliver (n + 3) f) w) := by
  obtain ⟨c, hk, hrecv, hlive⟩ := h.controller
  refine ⟨by simp [servedIn, h.live, liveAt, hk, hlive, hv], ?_⟩
  obtain ⟨t, W₁, hafter, hon, hc₁, he₁, hp₁⟩ := h.toOnCont.deliver hf (n + 2)
  have hk₁ : W₁.controllers[k]? = some c := hc₁ ▸ hk
  have hv₁ : W₁.publishers[r]? = some v := hp₁ ▸ hv
  have ht₁ : ∀ q ∈ v.tracker.promises, q < W₁.executions.size :=
    fun q hq => he₁ ▸ h.tracked v hv q hq
  obtain ⟨v', L, W₂, hcomp, hpub, hin, ho₂⟩ := publish_books hv₁ (h.owned.congr hc₁ he₁) ht₁
  have hdisp : (dispatch (n + 2) (.made k)).run W₁ =
      .ok true (after (count .dispatches [c.name, "delivered"]) W₂) := by
    rw [dispatch]
    exact dispatchMade_delivered hk₁ hlive ((receive_publisher hk₁ hrecv).trans hpub)
  rw [after_firingTail hdisp, if_pos rfl, after_count] at hafter
  rw [hafter]
  obtain ⟨hpubs, hprov, hclock, howners⟩ := hin.frame
  have hr : r < W₁.publishers.size := (Array.getElem?_eq_some_iff.mp hv₁).1
  have hon₃ : OnCont p cont k { W₂ with metrics := W₂.metrics.map (·.inc .dispatches [c.name, "delivered"]) } :=
    hon.congr hprov howners hclock
  have hp₁q : (W₁.withPublisher r v' L).promiseAt q = some ⟨k, false⟩ := by
    simpa [World.promiseAt, World.withPublisher, he₁] using h.promise
  obtain ⟨v₀, hv₀, hq⟩ := h.publisher
  obtain rfl : v = v₀ := Option.some.inj (hv.symm.trans hv₀)
  refine ⟨v', hcomp, by simp [hpubs, World.withPublisher, hr], ?_⟩
  split
  · -- the outcome closed the tracker, and with it the timer's promise
    rename_i hcl
    have hp₂ : W₂.promiseAt q = some ⟨k, true⟩ := by
      simp [hin.promises, hp₁q, hcl, hq]
    exact ⟨hon₃, (ho₂.silent hp₂).count .dispatches [c.name, "delivered"],
      ⟨v', by simp [hpubs, World.withPublisher, hr]⟩⟩
  · -- nothing was closed: the controller and the promise are as they were
    rename_i hcl
    have hc₂ : W₂.controllers[k]? = some c := by
      simpa [hcl] using hin.released q k false c hp₁q hk₁
    have ht : v'.tracker = v.tracker := by simp [hcomp.tracker, hcl]
    have hp₂ : W₂.promiseAt q = some ⟨k, false⟩ := by simp [hin.promises, hp₁q, hcl]
    refine ⟨hon₃, ⟨c, hc₂, hrecv, hlive⟩, hp₂,
      ⟨v', by simp [hpubs, World.withPublisher, hr], ht ▸ hq⟩, ho₂.congr rfl rfl, ?_⟩
    intro u hu q' hq'
    obtain rfl : u = v' := by simpa [hpubs, World.withPublisher, hr] using hu.symm
    have := ht₁ q' (ht ▸ hq')
    simpa [hin.executions] using this

/-- Destroying a live timer on a live continuation the clock made marks it destroyed and destroys
the continuation. -/
theorem TimerTask.destroyEffect_kills {t : TimerTask} {k : Clock} (hd : t.destroyed = false)
    (hl : k.isDestroyed t.cont = false) (hv : 0 < t.cont ∧ t.cont ≤ k.destroyed.size) :
    (t.destroyEffect k).1.destroyed = true ∧ (t.destroyEffect k).2.isDestroyed t.cont = true := by
  have hsame := (Clock.withdraw_sameConts k t.initialAction).trans
    (Clock.withdraw_sameConts _ t.periodicAction)
  have hl' : ((k.withdraw t.initialAction).withdraw t.periodicAction).isDestroyed t.cont = false :=
    (Clock.isDestroyed_congr hsame.1 _).trans hl
  refine ⟨by simp [TimerTask.destroyEffect, hd], ?_⟩
  simp only [TimerTask.destroyEffect, hd, Bool.false_eq_true, if_false]
  exact (Clock.destroyContinuation_live hl' (hsame.1 ▸ hv)).1

/-- A firing of a stopped timer is refused: its controller answers no without calling the
receiver, and the timer destroys itself and its continuation. -/
theorem Stopped.fire {p cont k q r : Nat} {w : World} (h : Stopped p cont k q r w) {f : Firing}
    (hf : f.cont = cont) (n : Nat) :
    servedIn cont k r w = .refused ∧ Gone p cont r (after (deliver (n + 3) f) w) ∧
      (after (deliver (n + 3) f) w).publishers = w.publishers := by
  refine ⟨by simp [servedIn, h.live, h.silent.liveAt_eq], ?_⟩
  obtain ⟨t, W₁, hafter, hon, hc₁, -, hp₁⟩ := h.toOnCont.deliver hf (n + 2)
  obtain ⟨c, hk, -, hdis⟩ := h.silent.controller
  have hdisp : (dispatch (n + 2) (.made k)).run W₁ =
      .ok false (after (count .dispatches [c.name, "gone"]) W₁) := by
    rw [dispatch]
    exact dispatchMade_gone _ (hc₁ ▸ hk) (by simp [Controller.live, hdis])
  rw [after_firingTail hdisp, if_neg Bool.false_ne_true] at hafter
  rw [hafter]
  set W₂ := after (log t.logger .debug "receiver has died, destroying timer")
    (after (count .dispatches [c.name, "gone"]) W₁)
  have hW₂ : W₂ = { W₁ with
      metrics := W₁.metrics.map (·.inc .dispatches [c.name, "gone"]), lines := W₂.lines } := by
    simp only [W₂]
    rw [after_log_lines, after_count]
  obtain ⟨t₁, g₁, hp, hcont, hd, -⟩ := hon.timer
  have hp₂ : W₂.providers[p]? = some ⟨.timer t₁, g₁⟩ := by rw [hW₂]; exact hp
  obtain ⟨hslot, hclock⟩ := destroyTimer_effect hp₂ Cause.consumerGone.reason
  have hl : W₂.clock.isDestroyed t₁.cont = false := by rw [hW₂, hcont]; exact hon.live
  have hv : 0 < t₁.cont ∧ t₁.cont ≤ W₂.clock.destroyed.size := by rw [hW₂, hcont]; exact hon.made
  obtain ⟨hdes, hdead⟩ := TimerTask.destroyEffect_kills hd hl hv
  have hpubs : (after (destroyTimer p Cause.consumerGone.reason) W₂).publishers = w.publishers := by
    have := feeds_destroyTimer p Cause.consumerGone.reason W₂
    simp only [World.feedSide, Prod.mk.injEq] at this
    rw [this.1, hW₂, hp₁]
  obtain ⟨v, hv⟩ := h.publisher
  exact ⟨⟨⟨_, _, hslot, hdes⟩, by rw [hclock, ← hcont]; exact hdead, ⟨v, hpubs ▸ hv⟩⟩, hpubs⟩

/-- A firing of a destroyed continuation is dropped, and changes nothing. -/
theorem Gone.fire {p cont r : Nat} {w : World} (h : Gone p cont r w) (k : Nat) {f : Firing}
    (hf : f.cont = cont) (n : Nat) :
    servedIn cont k r w = .dropped ∧ after (deliver (n + 1) f) w = w :=
  ⟨by simp [servedIn, h.dead], after_of_ok (deliver_destroyed (hf ▸ h.dead))⟩

/-! ## Moving the clock and what else a scenario does -/

section Moves

variable {p cont k q r : Nat} {w : World} {c : Clock}

theorem OnCont.clock (h : OnCont p cont k w) (hc : c.destroyed = w.clock.destroyed) :
    OnCont p cont k { w with clock := c } :=
  ⟨h.timer, h.owner, (Clock.isDestroyed_congr hc cont).trans h.live, hc ▸ h.made⟩

theorem Feeding.clock (h : Feeding p cont k q r w) (hc : c.destroyed = w.clock.destroyed) :
    Feeding p cont k q r { w with clock := c } :=
  ⟨h.toOnCont.clock hc, h.controller, h.promise, h.publisher, h.owned.congr rfl rfl, h.tracked⟩

theorem Stopped.clock (h : Stopped p cont k q r w) (hc : c.destroyed = w.clock.destroyed) :
    Stopped p cont k q r { w with clock := c } :=
  ⟨h.toOnCont.clock hc, ⟨h.silent.controller, h.silent.promise⟩, h.publisher⟩

theorem Gone.clock (h : Gone p cont r w) (hc : c.destroyed = w.clock.destroyed) :
    Gone p cont r { w with clock := c } :=
  ⟨h.timer, (Clock.isDestroyed_congr hc cont).trans h.dead, h.publisher⟩

end Moves

/-- What the rest of a scenario may do around a timer fed to publisher `r`: keep the books and the
tracked slots, and leave alone the timer's slot and the owner of its continuation `cont`, whether
that is destroyed, the references of controller `k`, whether it is disabled and its receiver, the
promise of slot `q`, and the publisher as `Kept` says, with slot `q` still tracked if it was. -/
structure Alongside (p cont k q r : Nat) (w w' : World) : Prop where
  slot : w'.providers[p]? = w.providers[p]?
  owner : w'.owners.getD (cont - 1) default = w.owners.getD (cont - 1) default
  live : w'.clock.isDestroyed cont = w.clock.isDestroyed cont
  conts : w.clock.destroyed.size ≤ w'.clock.destroyed.size
  controller : (w'.controllers[k]?).map (fun c => (c.refs, c.disabled, c.receiver)) =
    (w.controllers[k]?).map (fun c => (c.refs, c.disabled, c.receiver))
  promise : w'.promiseAt q = w.promiseAt q
  publisher : ∀ v ∈ w.publishers[r]?, ∃ v' ∈ w'.publishers[r]?, Kept v v' ∧
    (q ∈ v.tracker.promises → q ∈ v'.tracker.promises)
  owned : Owned w'
  tracked : Tracked r w'

section Alongside

variable {p cont k q r : Nat} {w w' : World}

/-- The controller a scenario leaves alone is one with the same references, disabled flag and
receiver. -/
theorem Alongside.controller_eq (hb : Alongside p cont k q r w w') {c : Controller}
    (hk : w.controllers[k]? = some c) :
    ∃ c', w'.controllers[k]? = some c' ∧ c'.refs = c.refs ∧ c'.disabled = c.disabled ∧
      c'.receiver = c.receiver := by
  have hc := hb.controller
  rw [hk] at hc
  obtain ⟨c', hk', hc'⟩ := Option.map_eq_some_iff.mp hc
  simp only [Prod.mk.injEq] at hc'
  exact ⟨c', hk', hc'.1, hc'.2.1, hc'.2.2⟩

theorem OnCont.beside (h : OnCont p cont k w) (hb : Alongside p cont k q r w w') :
    OnCont p cont k w' :=
  ⟨by simpa [TimerOn, hb.slot] using h.timer, hb.owner ▸ h.owner, hb.live ▸ h.live,
    ⟨h.made.1, h.made.2.trans hb.conts⟩⟩

theorem Feeding.beside (h : Feeding p cont k q r w) (hb : Alongside p cont k q r w w') :
    Feeding p cont k q r w' := by
  obtain ⟨c, hk, hrecv, hlive⟩ := h.controller
  obtain ⟨c', hk', hr, hd, hrc⟩ := hb.controller_eq hk
  obtain ⟨v, hv, hq⟩ := h.publisher
  obtain ⟨v', hv', -, hq'⟩ := hb.publisher v hv
  exact ⟨h.toOnCont.beside hb, ⟨c', hk', hrc.trans hrecv, by simpa [Controller.live, hr, hd] using hlive⟩,
    hb.promise.trans h.promise, ⟨v', hv', hq' hq⟩, hb.owned, hb.tracked⟩

theorem Stopped.beside (h : Stopped p cont k q r w) (hb : Alongside p cont k q r w w') :
    Stopped p cont k q r w' := by
  obtain ⟨c, hk, hr₀, hd₀⟩ := h.silent.controller
  obtain ⟨c', hk', hr, hd, -⟩ := hb.controller_eq hk
  obtain ⟨v, hv⟩ := h.publisher
  obtain ⟨v', hv', -⟩ := hb.publisher v hv
  refine ⟨h.toOnCont.beside hb, ⟨⟨c', hk', hr ▸ hr₀, hd.trans hd₀⟩, fun pr hpr => ?_⟩, ⟨v', hv'⟩⟩
  have hpr' : pr ∈ w.promiseAt q := by
    rw [← hb.promise]
    exact hpr
  exact h.silent.promise pr hpr'

theorem Gone.beside (h : Gone p cont r w) (hb : Alongside p cont k q r w w') : Gone p cont r w' := by
  obtain ⟨v, hv⟩ := h.publisher
  obtain ⟨v', hv', -⟩ := hb.publisher v hv
  exact ⟨by simpa [hb.slot] using h.timer, hb.live ▸ h.dead, ⟨v', hv'⟩⟩

end Alongside

/-! ## Runs of a fed timer -/

/-- A run of a scenario around the timer in slot `p`, on continuation `cont`, dispatching through
controller `k` whose promise is in slot `q`, to publisher `r`. The clock takes a firing of the
continuation and delivers it, with fuel enough for the receiver to run, recording what the firing
served; anything else does what `Alongside` allows. -/
inductive Feed (p cont k q r : Nat) : World → List Served → World → Prop
  | nil (w : World) : Feed p cont k q r w [] w
  | fire {w w' : World} {target : Time} {f : Firing} {c : Clock} {n : Nat} {ss : List Served} :
      w.clock.takeDue target = some (f, c) → f.cont = cont →
      Feed p cont k q r (after (deliver (n + 3) f) { w with clock := c }) ss w' →
      Feed p cont k q r w (servedIn cont k r { w with clock := c } :: ss) w'
  | beside {w w₁ w' : World} {ss : List Served} :
      Alongside p cont k q r w w₁ → Feed p cont k q r w₁ ss w' → Feed p cont k q r w ss w'

/-- A firing read off the clock: the first action due by `target` is of the timer's continuation. -/
theorem Feed.fire_taken {p cont k q r : Nat} {w w' : World} {ss : List Served} (target : Time)
    (hs : (w.clock.takeDue target).isSome) (hf : ((w.clock.takeDue target).get hs).1.cont = cont)
    (n : Nat) (hr : Feed p cont k q r (after (deliver (n + 3) ((w.clock.takeDue target).get hs).1)
      { w with clock := ((w.clock.takeDue target).get hs).2 }) ss w') :
    Feed p cont k q r w
      (servedIn cont k r { w with clock := ((w.clock.takeDue target).get hs).2 } :: ss) w' :=
  Feed.fire (Option.some_get hs).symm hf hr

theorem Served.afterClose_reached (n : Nat) : (Served.afterClose n).countP Served.reached = 0 := by
  cases n with
  | zero => rfl
  | succ n => simp [Served.afterClose, Served.reached, List.countP_replicate]

section Runs

variable {p cont k q r : Nat}

/-- Once the timer is gone every firing of its continuation is dropped, and the publisher is
kept. -/
theorem Feed.gone {w w' : World} {ss : List Served} (hr : Feed p cont k q r w ss w')
    (h : Gone p cont r w) :
    Gone p cont r w' ∧ ss = List.replicate ss.length .dropped ∧
      ∀ v ∈ w.publishers[r]?, ∃ v' ∈ w'.publishers[r]?, Kept v v' := by
  induction hr with
  | nil w => exact ⟨h, rfl, fun v hv => ⟨v, hv, Kept.refl v⟩⟩
  | @fire w w' target f c n ss ht hf _ ih =>
    have h₁ := h.clock (Clock.takeDue_destroyed ht)
    obtain ⟨hs, hafter⟩ := h₁.fire k hf (n + 2)
    rw [hafter] at ih
    obtain ⟨h', hss, hkept⟩ := ih h₁
    exact ⟨h', by rw [hs, List.length_cons, List.replicate_succ, ← hss], hkept⟩
  | beside hb _ ih =>
    obtain ⟨h', hss, hkept⟩ := ih (h.beside hb)
    refine ⟨h', hss, fun v hv => ?_⟩
    obtain ⟨v₁, hv₁, hk₁, -⟩ := hb.publisher v hv
    obtain ⟨v', hv', hk'⟩ := hkept v₁ hv₁
    exact ⟨v', hv', hk₁.trans hk'⟩

/-- A stopped timer refuses its next firing, which destroys it, and drops every firing after that;
the publisher is kept. -/
theorem Feed.stopped {w w' : World} {ss : List Served} (hr : Feed p cont k q r w ss w')
    (h : Stopped p cont k q r w) :
    ss = Served.afterClose ss.length ∧ (Served.refused ∈ ss → Gone p cont r w') ∧
      (Served.refused ∉ ss → Stopped p cont k q r w') ∧
      ∀ v ∈ w.publishers[r]?, ∃ v' ∈ w'.publishers[r]?, Kept v v' := by
  induction hr with
  | nil w => exact ⟨rfl, by simp, fun _ => h, fun v hv => ⟨v, hv, Kept.refl v⟩⟩
  | @fire w w' target f c n ss ht hf hrest _ =>
    have h₁ := h.clock (Clock.takeDue_destroyed ht)
    obtain ⟨hs, hgone, hpubs⟩ := h₁.fire hf n
    -- the refused firing destroyed the timer: every later one is dropped
    obtain ⟨h', hss, hkept⟩ := hrest.gone hgone
    refine ⟨by rw [hs, List.length_cons, Served.afterClose, ← hss], fun _ => h', by simp [hs],
      fun v hv => hkept v (by rw [hpubs]; exact hv)⟩
  | beside hb _ ih =>
    obtain ⟨hss, hg, hs, hkept⟩ := ih (h.beside hb)
    refine ⟨hss, hg, hs, fun v hv => ?_⟩
    obtain ⟨v₁, hv₁, hk₁, -⟩ := hb.publisher v hv
    obtain ⟨v', hv', hk'⟩ := hkept v₁ hv₁
    exact ⟨v', hv', hk₁.trans hk'⟩

/-- A feeding timer serves what the publisher's script says: it publishes the scripted outcomes in
order until one closes the tracker, refuses the firing after that one, which destroys it, and drops
every firing after that. The publisher completes once for each firing that reached it, and the
timer is destroyed exactly when a firing was refused. -/
theorem Feed.served {w w' : World} {ss : List Served} (hr : Feed p cont k q r w ss w')
    (h : Feeding p cont k q r w) {v : Publisher} (hv : w.publishers[r]? = some v) :
    ss = v.served ss.length ∧
      (∃ v', w'.publishers[r]? = some v' ∧ v'.encoded = v.encoded + ss.countP Served.reached) ∧
      (Served.refused ∈ ss → Gone p cont r w') ∧ (Served.refused ∉ ss → TimerOn p cont k w') := by
  induction hr generalizing v with
  | nil w => exact ⟨rfl, ⟨v, hv, by simp⟩, by simp, fun _ => h.timer⟩
  | @fire w w' target f c n ss ht hf hrest ih =>
    have h₁ := h.clock (Clock.takeDue_destroyed ht)
    obtain ⟨hs, v', hc, hv', hnext⟩ := h₁.fire hv hf n
    rw [hs, List.length_cons, hc.served]
    split at hnext
    · -- this outcome closed the tracker: the timer stops feeding
      rename_i hcl
      obtain ⟨hss, hg, hst, hkept⟩ := hrest.stopped hnext
      obtain ⟨v'', hv'', hk⟩ := hkept v' hv'
      refine ⟨by rw [if_pos hcl, ← hss], ⟨v'', hv'', ?_⟩, fun hm => hg ?_,
        fun hm => (hst fun h' => hm (List.mem_cons_of_mem _ h')).timer⟩
      · rw [hk.encoded, hc.encoded, List.countP_cons, hss, Served.afterClose_reached]
        simp [Served.reached]
      · simpa using hm
    · rename_i hcl
      obtain ⟨hss, ⟨v'', hv'', he⟩, hg, hst⟩ := ih hnext hv'
      refine ⟨by rw [if_neg hcl, ← hss], ⟨v'', hv'', ?_⟩, fun hm => hg (by simpa using hm),
        fun hm => hst (by simpa using hm)⟩
      rw [he, hc.encoded, List.countP_cons]
      simp [Served.reached]
      omega
  | beside hb _ ih =>
    obtain ⟨v₁, hv₁, hk₁, -⟩ := hb.publisher v hv
    obtain ⟨hss, ⟨v', hv', he⟩, hg, hst⟩ := ih (h.beside hb) hv₁
    rw [hk₁.served] at hss
    exact ⟨hss, ⟨v', hv', by rw [he, hk₁.encoded]⟩, hg, hst⟩

end Runs

/-! ## A publisher that hears no one -/

/-- A publisher counts each completion once and, unless it keeps unheard channels, its first
publication that reaches no subscriber tears down every promise it tracks; a timer feeding it is
refused at the next firing and destroyed. -/
theorem unheard_publisher_tears_down :
    (∀ (r : Nat) (w w' : World) (os : List (Option Reply)) (v : Publisher),
      Completions r w os w' → w.publishers[r]? = some v →
      ∃ v', w'.publishers[r]? = some v' ∧ os = v.upcoming os.length ∧
        v'.published + v'.failed = v.published + v.failed + os.length ∧
        v'.published = v.published + os.countP Publisher.accepted ∧
        v'.tracker.closed = (v.tracker.closed || os.any v.closesOn)) ∧
    (∀ (r : Nat) (w : World) (v : Publisher), w.publishers[r]? = some v → Owned w →
      (∀ q ∈ v.tracker.promises, q < w.executions.size) →
      ∃ v' w', (publish r).run w = .ok () w' ∧ Completed v v' ∧ w'.publishers[r]? = some v' ∧
        Owned w' ∧
        (v.closesOn v.next = true → v'.tracker = { closed := true } ∧
          ∀ q ∈ v.tracker.promises, ∀ k cl c, w.promiseAt q = some ⟨k, cl⟩ →
            w.controllers[k]? = some c → TornDown k q cl c w') ∧
        (v.closesOn v.next = false → ∃ L, w' = w.withPublisher r v' L)) ∧
    (∀ (t : Tracker) (q k : Nat) (cl : Bool) (e : Execution) (c : Controller) (w : World),
      t.closed = true → w.executions[q]? = some e → e.promise = some ⟨k, cl⟩ →
      w.controllers[k]? = some c → Owned w →
      ∃ w', (trackIn t q e).run w = .ok t w' ∧ TornDown k q cl c w' ∧ Owned w') ∧
    (∀ (p cont k q r : Nat) (w w' : World) (ss : List Served) (v : Publisher),
      Feed p cont k q r w ss w' → Feeding p cont k q r w → w.publishers[r]? = some v →
      ss = v.served ss.length ∧
        (∃ v', w'.publishers[r]? = some v' ∧ v'.encoded = v.encoded + ss.countP Served.reached) ∧
        (Served.refused ∈ ss → Gone p cont r w') ∧
        (Served.refused ∉ ss → TimerOn p cont k w')) := by
  refine ⟨fun r w w' os v h hv => ?_, fun r w v hv ho ht => publish_teardown hv ho ht,
    fun t q k cl e c w ht he hp hc ho => trackIn_closed_tornDown ht he hp hc ho,
    fun p cont k q r w w' ss v h hf hv => h.served hf hv⟩
  obtain ⟨v', hv', hos, -, hp, hf, hcl⟩ := h.counts hv
  refine ⟨v', hv', hos, ?_, hp, hcl⟩
  have hsplit := List.length_eq_countP_add_countP Publisher.accepted (l := os)
  simp only [Bool.not_eq_true, Bool.decide_eq_false] at hsplit
  rw [hp, hf]
  omega

/-- A periodic timer on continuation 1, fed to publisher 0 through controller 0 whose promise in
slot 0 the publisher tracks, fired three times by an advance to 3 ms. The publisher's script
answers one subscriber, then none: the second firing closes the promise from inside a dispatch that
still answers yes, and the third is refused and destroys the timer. -/
theorem ticking_into_an_unheard_channel :
    let t : TimerTask :=
      { name := "tick", mode := .periodic, period := minPeriod, initial := 0, cont := 1,
        ran := true, controller := some (.made 0), periodicAction := some 1, logger := {} }
    let k : Clock :=
      { now := Time.epoch, destroyed := #[false],
        queue := { entries := [{ id := 1, cont := 1, kind := .every, period := minPeriod,
                                 due := Time.epoch.add minPeriod }], lastId := 1 } }
    let v : Publisher :=
      { channel := "ticks", replies := [.subscribers 1, .subscribers 0], encodeFailures := [],
        keepUnheard := false, tracker := { promises := [0] }, logger := {},
        limited := { logger := {} } }
    let w₀ : World :=
      { clock := k, owners := #[.timer 0], providers := #[{ task := .timer t }],
        controllers := #[{ name := "tick", receiver := .publisher 0, provider := 0, logger := {} }],
        executions := #[{ promise := some ⟨0, false⟩, controller := some 0 }],
        publishers := #[v] }
    Feeding 0 1 0 0 0 w₀ ∧ ∃ ss w, Feed 0 1 0 0 0 w₀ ss w ∧
      ss = [.published (some (.subscribers 1)), .published (some (.subscribers 0)), .refused] ∧
      Gone 0 1 0 w ∧ ∃ v', w.publishers[0]? = some v' ∧ v'.encoded = 2 := by
  intro t k v w₀
  have hp : ∀ q, w₀.promiseAt q = if q = 0 then some ⟨0, false⟩ else none := by
    intro q
    rcases q with _ | q <;> simp [World.promiseAt, w₀]
  have hc : ∀ (k : Nat) (c : Controller), w₀.controllers[k]? = some c →
      c.refs = 2 ∧ c.disabled = false := by
    intro k c h
    rcases k with _ | k <;> simp [w₀] at h
    simp [← h]
  have ho : Owned w₀ := by
    refine ⟨fun q pr h => ?_, fun q q' pr pr' h h' _ => ?_, fun k c h => by simp [(hc k c h).1],
      fun q k c h _ => ?_⟩
    · rw [hp] at h
      split at h
      · cases h
        simp [w₀]
      · cases h
    · rw [hp] at h h'
      split at h <;> split at h'
      · omega
      · simp at h'
      · simp at h
      · simp at h
    · rw [hp] at h
      split at h <;> simp at h
  have hfeeding : Feeding 0 1 0 0 0 w₀ :=
    ⟨⟨⟨t, {}, rfl, rfl, rfl, rfl⟩, rfl, by decide, by decide⟩, ⟨_, rfl, rfl, by decide⟩, rfl,
      ⟨v, rfl, by decide⟩, ho, by simp [Tracked, w₀, v]⟩
  have hrun : Feed 0 1 0 0 0 w₀ _ _ := Feed.fire_taken (Time.epoch.add (3 * minPeriod)) (by decide +kernel) (by decide +kernel) 0 <|
    Feed.fire_taken (Time.epoch.add (3 * minPeriod)) (by decide +kernel) (by decide +kernel) 0 <|
      Feed.fire_taken (Time.epoch.add (3 * minPeriod)) (by decide +kernel) (by decide +kernel) 0 <|
        Feed.nil _
  obtain ⟨hss, ⟨v', hv', he⟩, hg, -⟩ :=
    unheard_publisher_tears_down.2.2.2 0 1 0 0 0 w₀ _ _ v hrun hfeeding rfl
  have heq := hss.trans (show v.served 3 = [.published (some (.subscribers 1)),
    .published (some (.subscribers 0)), .refused] from rfl)
  refine ⟨hfeeding, _, _, hrun, heq, hg (by rw [heq]; simp), v', hv', ?_⟩
  rw [he, heq]
  rfl

end Scenario

end HostDispatch
