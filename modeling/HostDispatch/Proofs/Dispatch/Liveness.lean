import HostDispatch.Proofs.Metrics.Series
import HostDispatch.Scenario.Delivery

/-!
# How long a controller delivers

A controller made by an execution holds two references and is live while it is not disabled and
some reference remains. Releasing drops a reference, closing its promise disables it and releases
once, and a receiver that panics disables it. A run of such calls is `Scenario.ControllerRun`: each
release, close, liveness query and dispatch is recorded as it happens, with the receiver's own calls
nested inside its dispatch.

`Scenario.Tracks` says what the world shows after a run: the references are `2 - r` down to zero,
`r` counting releases and at most one close; the controller is live exactly while nothing closed
it, fewer than two releases were made and no receiver panicked; every dispatch counted one outcome
and answered yes exactly when it delivered. Main statement: `controller_references_and_liveness`.
-/

namespace HostDispatch

/-- A release drops a reference, and the last one disables the controller; past zero it is undone. -/
theorem Controller.release_fst (c : Controller) (h : 0 ≤ c.refs) :
    c.release.1.refs = max 0 (c.refs - 1) ∧ c.release.1.disabled = (c.disabled || c.refs == 1) ∧
      c.release.1.name = c.name := by
  unfold Controller.release
  dsimp only
  split
  · rename_i h1
    refine ⟨by simp; omega, by simp; omega, rfl⟩
  · split
    · rename_i _ h2
      refine ⟨by simp; omega, by simp; omega, rfl⟩
    · rename_i h1 h2
      refine ⟨by simp; omega, by simp; omega, rfl⟩

namespace Scenario

/-! ## The controller's operations -/

theorem controller_run {k : Nat} {w : World} {c : Controller} (h : w.controllers[k]? = some c) :
    (controller k).run w = .ok c w := by
  obtain ⟨hk, rfl⟩ := Array.getElem?_eq_some_iff.mp h
  simp only [controller, run_bind, get_run]
  exact slot_run _ w hk

@[simp] theorem after_modify (g : World → World) (w : World) : after (modify g) w = g w := rfl

/-- A recovered computation keeps the world its failure left. -/
theorem tryCatch_run {α : Type} (x : Sim α) (h : Interrupt → Sim α) (w : World) :
    (tryCatch x h).run w = match x.run w with
      | .ok a w' => .ok a w'
      | .error e w' => (h e).run w' := by
  simp only [tryCatch, tryCatchThe, MonadExceptOf.tryCatch, EStateM.run]
  delta EStateM.tryCatch
  cases x w <;> rfl

/-- A dispatch through a controller that is not live calls no receiver, answers no and counts it
as gone. -/
theorem dispatchMade_gone (receive : Nat → Sim Unit) {k : Nat} {w : World} {c : Controller}
    (hk : w.controllers[k]? = some c) (hl : c.live = false) :
    (dispatchMade receive k).run w = .ok false (after (count .dispatches [c.name, "gone"]) w) := by
  simp only [dispatchMade, run_bind, controller_run hk, hl]
  rfl

/-- A dispatch through a live controller whose receiver returns answers yes and counts it as
delivered. With a mutex too: nothing runs between its two looks, so it is still live. -/
theorem dispatchMade_delivered {receive : Nat → Sim Unit} {k : Nat} {w w₁ : World}
    {c : Controller} (hk : w.controllers[k]? = some c) (hl : c.live = true)
    (hr : (receive k).run w = .ok () w₁) :
    (dispatchMade receive k).run w =
      .ok true (after (count .dispatches [c.name, "delivered"]) w₁) := by
  simp only [dispatchMade, run_bind, controller_run hk, hl, Bool.not_true, Bool.false_eq_true,
    Bool.and_false, if_false, tryCatch_run, hr, pure_run, count_run]
  rfl

/-- A dispatch through a live controller whose receiver panics recovers: it disables the
controller, counts a panic, logs it and answers no. -/
theorem dispatchMade_panic {receive : Nat → Sim Unit} {k : Nat} {w w₁ : World} {m : String}
    {c c₁ : Controller} (hk : w.controllers[k]? = some c) (hl : c.live = true)
    (hr : (receive k).run w = .error (.panic m) w₁) (hk₁ : w₁.controllers[k]? = some c₁) :
    (dispatchMade receive k).run w = .ok false
      (after (log c.logger .error "receiver panicked; treating consumer as gone"
          [("panic", .text m)])
        (after (count .dispatches [c.name, "panic"])
          { w₁ with controllers := w₁.controllers.set! k c₁.disable })) := by
  simp only [dispatchMade, run_bind, controller_run hk, hl, Bool.not_true, Bool.false_eq_true,
    Bool.and_false, if_false, tryCatch_run, hr, pure_run, controller_run hk₁, setController,
    modify_run, count_run, log_run]
  rfl

theorem after_release_made {k : Nat} {w : World} {c : Controller}
    (hk : w.controllers[k]? = some c) :
    (after (release (.made k)) w).controllers[k]? = some c.release.1 ∧
      (after (release (.made k)) w).executions = w.executions ∧
      (after (release (.made k)) w).metrics = w.metrics := by
  have hlt : k < w.controllers.size := (Array.getElem?_eq_some_iff.mp hk).1
  simp only [release, after_bind, controller_run hk, setController, modify_run]
  split
  · rw [after_log_lines]
    simp [hlt]
  · simp [hlt]

theorem release_made_run {k : Nat} {w : World} {c : Controller}
    (hk : w.controllers[k]? = some c) :
    (release (.made k)).run w = .ok () (after (release (.made k)) w) := by
  simp only [release, run_bind, after_bind, controller_run hk, setController, modify_run]
  split
  · exact log_run _ _ _ _ _
  · rfl

/-- Closing a promise that is still open disables its controller, releases it once and marks the
promise closed. -/
theorem after_closeExecution_open {k q : Nat} {w : World} {e : Execution} {c : Controller}
    (he : w.executions[q]? = some e) (hp : e.promise = some ⟨k, false⟩)
    (hk : w.controllers[k]? = some c) :
    (after (closeExecution q) w).controllers[k]? = some c.disable.release.1 ∧
      (after (closeExecution q) w).executions[q]? = some { e with promise := some ⟨k, true⟩ } ∧
      (after (closeExecution q) w).metrics = w.metrics := by
  obtain ⟨hq, rfl⟩ := Array.getElem?_eq_some_iff.mp he
  have hlt : k < w.controllers.size := (Array.getElem?_eq_some_iff.mp hk).1
  have hk' : ({ w with controllers := w.controllers.set! k c.disable } : World).controllers[k]? =
      some c.disable := by simp [hlt]
  obtain ⟨h₁, h₂, h₃⟩ := after_release_made hk'
  simp only [closeExecution, after_bind, get_run, slot_run _ w hq, hp]
  simp only [closePromise, Bool.false_eq_true, if_false, run_bind, controller_run hk,
    setController, modify_run, release_made_run hk', pure_run, h₂]
  simp only [slot_run _ _ hq, after_modify]
  simp only [Array.set!_eq_setIfInBounds] at h₁ h₂ h₃ ⊢
  simp [h₁, h₂, h₃, hq]

/-- Closing a promise a second time changes nothing. -/
theorem after_closeExecution_closed {k q : Nat} {w : World} {e : Execution}
    (he : w.executions[q]? = some e) (hp : e.promise = some ⟨k, true⟩) :
    (after (closeExecution q) w).controllers = w.controllers ∧
      (after (closeExecution q) w).executions[q]? = some e ∧
      (after (closeExecution q) w).metrics = w.metrics := by
  obtain ⟨hq, rfl⟩ := Array.getElem?_eq_some_iff.mp he
  simp only [closeExecution, after_bind, get_run, slot_run _ w hq, hp, closePromise, if_true,
    pure_run, after_modify]
  simp [hq, ← hp]

/-! ## Runs of calls -/

/-- How a dispatch ended: delivered to the receiver, refused as gone, or recovered from a panic. -/
inductive Outcome where
  | delivered
  | gone
  | panic
deriving DecidableEq

/-- The label a dispatch's outcome is counted under. -/
def Outcome.label : Outcome → String
  | .delivered => "delivered"
  | .gone => "gone"
  | .panic => "panic"

/-- A call made on a controller or its promise, as a run records it. -/
inductive ControllerCall where
  | release
  | close
  /-- Liveness was asked, with its answer. -/
  | alive (live : Bool)
  /-- A dispatch began, finding the controller live or not. -/
  | enter (live : Bool)
  /-- A dispatch ended, with its outcome and its answer. -/
  | leave (outcome : Outcome) (answer : Bool)
deriving DecidableEq

namespace ControllerCall

/-- The outcome a call records, if it ends a dispatch. -/
def ended : ControllerCall → Option Outcome
  | .leave o _ => some o
  | _ => none

/-- The liveness a call observed, if it observed one. -/
def seen : ControllerCall → Option Bool
  | .alive b | .enter b => some b
  | _ => none

/-- The number of releases made. -/
def releases (cs : List ControllerCall) : Nat := cs.count .release

/-- The number of times the promise was closed. -/
def closes (cs : List ControllerCall) : Nat := cs.count .close

/-- The number of dispatches that ended with an outcome. -/
def outcomes (o : Outcome) (cs : List ControllerCall) : Nat := cs.countP (·.ended == some o)

/-- The references left: two, less each release and one close, and never below zero. -/
def refsAfter (cs : List ControllerCall) : Int :=
  max 0 (2 - ((releases cs + min 1 (closes cs) : Nat) : Int))

/-- Live while nothing closed the promise, fewer than two releases were made and no receiver
panicked. -/
def liveAfter (cs : List ControllerCall) : Bool :=
  decide (closes cs = 0 ∧ releases cs < 2 ∧ outcomes .panic cs = 0)

/-- The liveness observed, in order. -/
def observed (cs : List ControllerCall) : List Bool := cs.filterMap seen

@[simp] theorem releases_append (cs ds : List ControllerCall) :
    releases (cs ++ ds) = releases cs + releases ds := List.count_append ..

@[simp] theorem closes_append (cs ds : List ControllerCall) :
    closes (cs ++ ds) = closes cs + closes ds := List.count_append ..

@[simp] theorem outcomes_append (o : Outcome) (cs ds : List ControllerCall) :
    outcomes o (cs ++ ds) = outcomes o cs + outcomes o ds := List.countP_append ..

@[simp] theorem observed_append (cs ds : List ControllerCall) :
    observed (cs ++ ds) = observed cs ++ observed ds := List.filterMap_append

@[simp] theorem releases_nil : releases [] = 0 := rfl
@[simp] theorem closes_nil : closes [] = 0 := rfl
@[simp] theorem outcomes_nil (o : Outcome) : outcomes o [] = 0 := rfl

@[simp] theorem releases_single (c : ControllerCall) :
    releases [c] = if c = .release then 1 else 0 := by
  cases c <;> simp [releases]

@[simp] theorem closes_single (c : ControllerCall) :
    closes [c] = if c = .close then 1 else 0 := by
  cases c <;> simp [closes]

@[simp] theorem outcomes_single (o : Outcome) (c : ControllerCall) :
    outcomes o [c] = if c.ended = some o then 1 else 0 := by
  simp [outcomes]

/-- A controller that is live now was live at every earlier point. -/
theorem liveAfter_of_append {cs ds : List ControllerCall} (h : liveAfter (cs ++ ds) = true) :
    liveAfter cs = true := by
  simp only [liveAfter, decide_eq_true_eq, closes_append, releases_append, outcomes_append] at h ⊢
  omega

/-- A live controller has a reference left. -/
theorem refsAfter_pos {cs : List ControllerCall} (h : liveAfter cs = true) : 0 < refsAfter cs := by
  simp only [liveAfter, decide_eq_true_eq] at h
  simp only [refsAfter]
  omega

theorem refsAfter_nonneg (cs : List ControllerCall) : 0 ≤ refsAfter cs := by
  unfold refsAfter
  omega

/-- A release drops one reference, down to zero. -/
theorem refsAfter_release (cs : List ControllerCall) :
    refsAfter (cs ++ [.release]) = max 0 (refsAfter cs - 1) := by
  simp only [refsAfter, releases_append, closes_append, releases_single, closes_single, if_true,
    reduceCtorEq, if_false]
  omega

/-- The first close drops one reference, down to zero. -/
theorem refsAfter_close {cs : List ControllerCall} (h : closes cs = 0) :
    refsAfter (cs ++ [.close]) = max 0 (refsAfter cs - 1) := by
  simp only [refsAfter, releases_append, closes_append, releases_single, closes_single, if_true,
    reduceCtorEq, if_false, h]
  omega

/-- A release leaves the controller live only if it had two references. -/
theorem liveAfter_release (cs : List ControllerCall) :
    liveAfter (cs ++ [.release]) = (liveAfter cs && refsAfter cs != 1) := by
  rw [Bool.eq_iff_iff]
  simp only [liveAfter, refsAfter, releases_append, closes_append, outcomes_append,
    releases_single, closes_single, outcomes_single, if_true, reduceCtorEq, if_false, ended,
    decide_eq_true_eq, Bool.and_eq_true, bne_iff_ne, ne_eq]
  -- Only a controller that nothing closed and no receiver disabled depends on its releases.
  omega

end ControllerCall

open ControllerCall

/-- Whether controller `k` is live. -/
def liveAt (k : Nat) (w : World) : Bool := (w.controllers[k]?.map Controller.live).getD false

/-- What the rest of a scenario may do around controller `k` and the promise in slot `q`: anything
that leaves the controller's references, whether it is disabled, its name, the promise, and the
dispatch counts of that name as they are. -/
structure Apart (k q : Nat) (w w' : World) : Prop where
  controller : (w'.controllers[k]?).map (fun c => (c.refs, c.disabled, c.name)) =
    (w.controllers[k]?).map (fun c => (c.refs, c.disabled, c.name))
  promise : (w'.executions[q]?).bind (·.promise) = (w.executions[q]?).bind (·.promise)
  registry : w'.metrics.isSome = w.metrics.isSome
  series : ∀ c ∈ w.controllers[k]?, ∀ o : Outcome,
    w'.metric .dispatches [c.name, o.label] = w.metric .dispatches [c.name, o.label]

/-- A run of calls on controller `k`, whose promise is in slot `q`, recording each call. Releases,
closes of the promise and liveness queries act at once. A dispatch through a controller that is
not live calls no receiver, whatever the receiver would do. A dispatch through a live one runs its
receiver, whose own calls are a run nested in the dispatch, and which returns or panics. Around
these, the rest of the scenario may do what leaves the controller and its promise alone. -/
inductive ControllerRun (k q : Nat) : World → List ControllerCall → World → Prop
  | nil (w : World) : ControllerRun k q w [] w
  | release {w w' : World} {cs : List ControllerCall} :
      ControllerRun k q (after (release (.made k)) w) cs w' →
      ControllerRun k q w (.release :: cs) w'
  | close {w w' : World} {cs : List ControllerCall} :
      ControllerRun k q (after (closeExecution q) w) cs w' →
      ControllerRun k q w (.close :: cs) w'
  | alive {w w' : World} {cs : List ControllerCall} :
      ControllerRun k q w cs w' → ControllerRun k q w (.alive (liveAt k w) :: cs) w'
  | gone {w w₁ w' : World} {receive : Nat → Sim Unit} {b : Bool} {cs : List ControllerCall} :
      liveAt k w = false → (dispatchMade receive k).run w = .ok b w₁ →
      ControllerRun k q w₁ cs w' →
      ControllerRun k q w (.enter false :: .leave .gone b :: cs) w'
  | delivered {w w₁ w₂ w' : World} {receive : Nat → Sim Unit} {b : Bool}
      {inner cs : List ControllerCall} :
      liveAt k w = true → ControllerRun k q w inner w₁ → (receive k).run w = .ok () w₁ →
      (dispatchMade receive k).run w = .ok b w₂ → ControllerRun k q w₂ cs w' →
      ControllerRun k q w (.enter true :: inner ++ .leave .delivered b :: cs) w'
  | panicked {w w₁ w₂ w' : World} {receive : Nat → Sim Unit} {m : String} {b : Bool}
      {inner cs : List ControllerCall} :
      liveAt k w = true → ControllerRun k q w inner w₁ → (receive k).run w = .error (.panic m) w₁ →
      (dispatchMade receive k).run w = .ok b w₂ → ControllerRun k q w₂ cs w' →
      ControllerRun k q w (.enter true :: inner ++ .leave .panic b :: cs) w'
  | apart {w w₁ w' : World} {cs : List ControllerCall} :
      Apart k q w w₁ → ControllerRun k q w₁ cs w' → ControllerRun k q w cs w'

/-! ## What a run leaves -/

/-- What the world shows of controller `k`, named `name`, and its promise in slot `q` after the
calls `cs`, counted from a controller just made whose dispatch series stood at `base`, in a
scenario that keeps metrics or not as `kept` says. -/
structure Tracks (k q : Nat) (name : String) (base : Outcome → Int) (kept : Bool) (w : World)
    (cs : List ControllerCall) : Prop where
  controller : ∃ c, w.controllers[k]? = some c ∧ c.name = name ∧ c.refs = refsAfter cs ∧
    c.disabled = !liveAfter cs
  promise : (w.executions[q]?).bind (·.promise) = some ⟨k, decide (0 < closes cs)⟩
  registry : w.metrics.isSome = kept
  series : ∀ o : Outcome, w.metric .dispatches [name, o.label] =
    base o + if kept then outcomes o cs else 0
  answers : ∀ o b, ControllerCall.leave o b ∈ cs → b = (o == .delivered)
  seenPairwise : (observed cs).Pairwise (fun a b => b = true → a = true)
  seenLive : ∀ b ∈ observed cs, liveAfter cs = true → b = true

section Tracks

variable {k q : Nat} {name : String} {base : Outcome → Int} {kept : Bool} {w : World}
  {cs : List ControllerCall}

/-- The controller is live exactly when the calls so far leave it so. -/
theorem Tracks.liveAt_eq (h : Tracks k q name base kept w cs) : liveAt k w = liveAfter cs := by
  obtain ⟨c, hk, -, hr, hd⟩ := h.controller
  have hpos := @refsAfter_pos cs
  simp only [Scenario.liveAt, hk, Option.map_some, Option.getD_some, Controller.live, hd, hr]
  cases hl : liveAfter cs <;> simp [hl, hpos]

/-- A call that observes nothing, or observes the liveness the calls before it leave, keeps every
observation consistent with those after it. -/
theorem Tracks.seen_snoc (h : Tracks k q name base kept w cs) {x : ControllerCall}
    (hx : x.seen = none ∨ x.seen = some (liveAfter cs)) :
    (observed (cs ++ [x])).Pairwise (fun a b => b = true → a = true) ∧
      ∀ b ∈ observed (cs ++ [x]), liveAfter (cs ++ [x]) = true → b = true := by
  have hlive : liveAfter (cs ++ [x]) = true → liveAfter cs = true := liveAfter_of_append
  have hone : observed [x] = x.seen.toList := by
    cases hs : x.seen <;> simp [observed, hs]
  rw [observed_append, hone]
  rcases hx with hx | hx
  · rw [hx, Option.toList_none, List.append_nil]
    exact ⟨h.seenPairwise, fun b hb hl => h.seenLive b hb (hlive hl)⟩
  · rw [hx, Option.toList_some]
    refine ⟨List.pairwise_append.mpr ⟨h.seenPairwise, by simp, ?_⟩, ?_⟩
    · simp only [List.mem_singleton, forall_eq]
      exact fun a ha hl => h.seenLive a ha hl
    · intro b hb hl
      rcases List.mem_append.mp hb with hb | hb
      · exact h.seenLive b hb (hlive hl)
      · rw [List.mem_singleton.mp hb]
        exact hlive hl

theorem metric_congr {w' : World} (h : w'.metrics = w.metrics) (f : Metrics.Family)
    (vs : List String) : w'.metric f vs = w.metric f vs := by
  simp only [World.metric, h]

/-- One more call keeps what is tracked, once the world after it shows the controller, the promise
and the dispatch counts that the calls so far and this one account for. -/
theorem Tracks.snoc (h : Tracks k q name base kept w cs) {w' : World} {x : ControllerCall}
    (hctrl : ∃ c, w'.controllers[k]? = some c ∧ c.name = name ∧
      c.refs = refsAfter (cs ++ [x]) ∧ c.disabled = !liveAfter (cs ++ [x]))
    (hprom : (w'.executions[q]?).bind (·.promise) = some ⟨k, decide (0 < closes (cs ++ [x]))⟩)
    (hreg : w'.metrics.isSome = w.metrics.isSome)
    (hser : ∀ o : Outcome, w'.metric .dispatches [name, o.label] =
      w.metric .dispatches [name, o.label] + if w.metrics.isSome ∧ x.ended = some o then 1 else 0)
    (hans : ∀ o b, x = .leave o b → b = (o == .delivered))
    (hseen : x.seen = none ∨ x.seen = some (liveAfter cs)) :
    Tracks k q name base kept w' (cs ++ [x]) := by
  obtain ⟨hp, hl⟩ := h.seen_snoc hseen
  refine ⟨hctrl, hprom, hreg.trans h.registry, fun o => ?_, fun o b hmem => ?_, hp, hl⟩
  · rw [hser o, h.series o, h.registry, outcomes_append, outcomes_single]
    by_cases hm : kept <;> by_cases he : x.ended = some o <;> simp [hm, he] <;> omega
  · rcases List.mem_append.mp hmem with hmem | hmem
    · exact h.answers o b hmem
    · exact hans o b (List.mem_singleton.mp hmem).symm

/-- A release drops a reference; the last one disables the controller. -/
theorem Tracks.release (h : Tracks k q name base kept w cs) :
    Tracks k q name base kept (after (release (.made k)) w) (cs ++ [.release]) := by
  obtain ⟨c, hk, hn, hr, hd⟩ := h.controller
  obtain ⟨h₁, h₂, h₃⟩ := after_release_made hk
  obtain ⟨hr', hd', hn'⟩ := c.release_fst (hr ▸ refsAfter_nonneg cs)
  refine h.snoc ⟨_, h₁, hn'.trans hn, ?_, ?_⟩ ?_ (by rw [h₃]) (fun o => ?_) (by simp)
    (.inl rfl)
  · rw [hr', hr, refsAfter_release]
  · rw [hd', hd, hr, liveAfter_release]
    cases liveAfter cs <;> simp [bne]
  · simpa [h₂] using h.promise
  · simp [metric_congr h₃, ended]

/-- Closing the promise disables the controller and releases it, the first time only. -/
theorem Tracks.close (h : Tracks k q name base kept w cs) :
    Tracks k q name base kept (after (closeExecution q) w) (cs ++ [.close]) := by
  obtain ⟨c, hk, hn, hr, hd⟩ := h.controller
  obtain ⟨e, he, hpe⟩ := Option.bind_eq_some_iff.mp h.promise
  by_cases hc : closes cs = 0
  · -- The promise is open: this close is the one that counts.
    rw [hc] at hpe
    obtain ⟨h₁, h₂, h₃⟩ := after_closeExecution_open he hpe hk
    obtain ⟨hr', hd', hn'⟩ := c.disable.release_fst (hr ▸ refsAfter_nonneg cs)
    refine h.snoc ⟨_, h₁, hn'.trans hn, ?_, ?_⟩ ?_ (by rw [h₃]) (fun o => ?_) (by simp)
      (.inl rfl)
    · rw [hr', refsAfter_close hc, ← hr]
      rfl
    · rw [hd']
      simp [Controller.disable, liveAfter]
    · simp [h₂]
    · simp [metric_congr h₃, ended]
  · -- The promise was closed before: nothing happens.
    have hpe' : e.promise = some ⟨k, true⟩ := by simpa [Nat.pos_of_ne_zero hc] using hpe
    obtain ⟨h₁, h₂, h₃⟩ := after_closeExecution_closed he hpe'
    refine h.snoc ⟨c, by rw [h₁]; exact hk, hn, ?_, ?_⟩ ?_ (by rw [h₃]) (fun o => ?_) (by simp)
      (.inl rfl)
    · rw [hr]
      simp only [refsAfter, releases_append, closes_append, releases_single, closes_single]
      simp
      omega
    · rw [hd]
      simp only [liveAfter, releases_append, closes_append, outcomes_append, releases_single,
        closes_single, outcomes_single]
      simp [hc]
    · simp [h₂, hpe']
    · simp [metric_congr h₃, ended]

/-- Asking whether the controller is live changes nothing. -/
theorem Tracks.observe (h : Tracks k q name base kept w cs) {x : ControllerCall}
    (hx : x.seen = some (liveAt k w)) (hr : releases [x] = 0) (hc : closes [x] = 0)
    (he : x.ended = none) : Tracks k q name base kept w (cs ++ [x]) := by
  obtain ⟨c, hk, hn, hrc, hd⟩ := h.controller
  have hrel : releases (cs ++ [x]) = releases cs := by simp only [releases_append, hr]; rfl
  have hcl : closes (cs ++ [x]) = closes cs := by simp only [closes_append, hc]; rfl
  have hout : outcomes .panic (cs ++ [x]) = outcomes .panic cs := by simp [outcomes_append, he]
  refine h.snoc ⟨c, hk, hn, ?_, ?_⟩ ?_ rfl (fun o => by simp [he]) (fun o b hxb => ?_)
    (.inr (h.liveAt_eq ▸ hx))
  · simp only [refsAfter, hrel, hcl, hrc]
  · simp only [liveAfter, hrel, hcl, hout, hd]
  · rw [hcl]
    exact h.promise
  · simp [hxb, ended] at he

/-- A dispatch that did not panic ends by counting its outcome under the controller's name, and
answers yes exactly when it delivered. -/
theorem Tracks.settle (h : Tracks k q name base kept w cs) {o : Outcome} (ho : o ≠ .panic) :
    Tracks k q name base kept (after (count .dispatches [name, o.label]) w)
      (cs ++ [.leave o (o == .delivered)]) := by
  obtain ⟨c, hk, hn, hr, hd⟩ := h.controller
  have hpan : outcomes .panic [ControllerCall.leave o (o == .delivered)] = 0 := by
    simp [ended, ho]
  refine h.snoc ⟨c, by simpa using hk, hn, ?_, ?_⟩ (by simpa using h.promise)
    (metrics_isSome_count _ _ _) (fun o' => ?_) (fun o' b' hx => by cases hx; rfl) (.inl rfl)
  · simp [refsAfter, hr]
  · simp [liveAfter, hd, hpan]
  · rw [metric_count]
    by_cases he : o' = o
    · subst he
      simp [ended]
    · have hl : o'.label ≠ o.label := by cases o <;> cases o' <;> simp_all [Outcome.label]
      simp [ended, hl, Ne.symm he]

/-- A dispatch whose receiver panicked disables the controller, counts the panic and answers no. -/
theorem Tracks.panic (h : Tracks k q name base kept w cs) {c₁ : Controller}
    (hk : w.controllers[k]? = some c₁) :
    Tracks k q name base kept (after (count .dispatches [name, Outcome.panic.label])
      { w with controllers := w.controllers.set! k c₁.disable }) (cs ++ [.leave .panic false]) := by
  obtain ⟨c, hk', hn, hr, -⟩ := h.controller
  obtain rfl : c = c₁ := Option.some.inj (hk'.symm.trans hk)
  have hlt : k < w.controllers.size := (Array.getElem?_eq_some_iff.mp hk).1
  refine h.snoc ⟨c.disable, by simp [hlt], hn, ?_, ?_⟩ (by simpa using h.promise)
    (metrics_isSome_count _ _ _) (fun o' => ?_) (fun o' b' hx => by cases hx; rfl) (.inl rfl)
  · simp [refsAfter, hr, Controller.disable]
  · simp [liveAfter, Controller.disable, ended]
  · rw [metric_count]
    by_cases he : o' = .panic
    · subst he
      simp [ended, World.metric]
    · have hl : o'.label ≠ Outcome.panic.label := by cases o' <;> simp_all [Outcome.label]
      simp [ended, hl, Ne.symm he, World.metric]

/-- A log line is apart from every controller. -/
theorem apart_log (l : Log.Logger) (s : Severity) (m : String) (fs : List Log.Field) :
    Apart k q w (after (log l s m fs) w) := by
  rw [after_log_lines]
  exact ⟨rfl, rfl, rfl, fun _ _ _ => rfl⟩

/-- The rest of the scenario leaves what is tracked. -/
theorem Tracks.apart (h : Tracks k q name base kept w cs) {w' : World} (ha : Apart k q w w') :
    Tracks k q name base kept w' cs := by
  obtain ⟨c, hk, hn, hr, hd⟩ := h.controller
  have hc := ha.controller
  rw [hk] at hc
  obtain ⟨c', hk', hc'⟩ := Option.map_eq_some_iff.mp hc
  simp only [Prod.mk.injEq] at hc'
  refine ⟨⟨c', hk', hc'.2.2.trans hn, hc'.1.trans hr, hc'.2.1.trans hd⟩, ha.promise.trans h.promise,
    ha.registry.trans h.registry, fun o => ?_, h.answers, h.seenPairwise, h.seenLive⟩
  rw [← hn, ha.series c hk o, hn, h.series o]

end Tracks

/-- Every run of calls keeps what is tracked, the calls of the receivers nested in its dispatches
included. -/
theorem ControllerRun.tracks {k q : Nat} {name : String} {base : Outcome → Int} {kept : Bool}
    {w w' : World}
    {cs : List ControllerCall} (hr : ControllerRun k q w cs w') :
    ∀ {pre : List ControllerCall}, Tracks k q name base kept w pre →
      Tracks k q name base kept w' (pre ++ cs) := by
  induction hr with
  | nil w =>
    intro pre h
    simpa using h
  | release _ ih =>
    intro pre h
    simpa using ih h.release
  | close _ ih =>
    intro pre h
    simpa using ih h.close
  | alive _ ih =>
    intro pre h
    simpa using ih (h.observe rfl rfl rfl rfl)
  | @gone w w₁ w' receive b cs hl hd _ ih =>
    intro pre h
    obtain ⟨c, hk, hn, -, -⟩ := h.controller
    have hlive : c.live = false := by simpa [liveAt, hk] using hl
    rw [dispatchMade_gone _ hk hlive] at hd
    cases hd
    subst hn
    have h₁ := (h.observe (x := .enter false) (by simp [seen, hl]) rfl rfl rfl).settle
      (o := .gone) (by decide)
    simpa [show (Outcome.gone == Outcome.delivered) = false from rfl] using ih h₁
  | @delivered w w₁ w₂ w' receive b inner cs hl _ hrec hd _ ihi ih =>
    intro pre h
    obtain ⟨c, hk, hn, -, -⟩ := h.controller
    have hlive : c.live = true := by simpa [liveAt, hk] using hl
    rw [dispatchMade_delivered hk hlive hrec] at hd
    cases hd
    subst hn
    -- The receiver's calls run inside the dispatch, between its entry and its count.
    have h₁ := ihi (h.observe (x := .enter true) (by simp [seen, hl]) rfl rfl rfl)
    have h₂ := h₁.settle (o := .delivered) (by decide)
    simpa [show (Outcome.delivered == Outcome.delivered) = true from rfl] using ih h₂
  | @panicked w w₁ w₂ w' receive m b inner cs hl _ hrec hd _ ihi ih =>
    intro pre h
    obtain ⟨c, hk, hn, -, -⟩ := h.controller
    have hlive : c.live = true := by simpa [liveAt, hk] using hl
    have h₁ := ihi (h.observe (x := .enter true) (by simp [seen, hl]) rfl rfl rfl)
    obtain ⟨c₁, hk₁, -⟩ := h₁.controller
    rw [dispatchMade_panic hk hlive hrec hk₁] at hd
    cases hd
    subst hn
    have h₂ := (h₁.panic hk₁).apart (apart_log c.logger .error
      "receiver panicked; treating consumer as gone" [("panic", .text m)])
    simpa using ih h₂
  | apart ha _ ih =>
    intro pre h
    exact ih (h.apart ha)

/-- A controller just made by an execution that succeeded: it holds two references and is not
disabled, and its promise, not yet closed, is in slot `q`. -/
def JustMade (k q : Nat) (w : World) : Prop :=
  ∃ c, w.controllers[k]? = some c ∧ c.refs = 2 ∧ c.disabled = false ∧
    (w.executions[q]?).bind (·.promise) = some ⟨k, false⟩

/-- Over any run of calls on a controller made by an execution, its references are two less the
releases and at most one close, never below zero, and it is live exactly while nothing closed its
promise, fewer than two releases were made and no receiver panicked; each dispatch answers yes
exactly when it delivered. -/
theorem controller_references_and_liveness {k q : Nat} {w₀ w : World} {cs : List ControllerCall}
    (h₀ : JustMade k q w₀) (hr : ControllerRun k q w₀ cs w) :
    ∃ c, w.controllers[k]? = some c ∧
      c.refs = max 0 (2 - ((releases cs + min 1 (closes cs) : Nat) : Int)) ∧ 0 ≤ c.refs ∧
      c.refs ≤ 2 ∧
      c.live = liveAfter cs ∧
      (observed cs ++ [c.live]).Pairwise (fun a b => b = true → a = true) ∧
      (0 < closes cs → c.disabled = true ∧ (w.executions[q]?).bind (·.promise) = some ⟨k, true⟩) ∧
      (0 < outcomes .panic cs → c.disabled = true) ∧
      (∀ o : Outcome, w.metric .dispatches [c.name, o.label] =
        w₀.metric .dispatches [c.name, o.label] + if w₀.metrics.isSome then outcomes o cs else 0) ∧
      ∀ o b, ControllerCall.leave o b ∈ cs → b = (o == .delivered) := by
  obtain ⟨c₀, hk₀, hr₀, hd₀, hp₀⟩ := h₀
  have ht₀ : Tracks k q c₀.name (fun o => w₀.metric .dispatches [c₀.name, o.label])
      w₀.metrics.isSome w₀ [] :=
    ⟨⟨c₀, hk₀, rfl, by rw [hr₀]; decide, by simp [hd₀, liveAfter]⟩, by simpa using hp₀, rfl,
      fun o => by simp, by simp, by simp [observed], by simp [observed]⟩
  have ht := hr.tracks ht₀
  rw [List.nil_append] at ht
  obtain ⟨c, hk, hn, hrc, hd⟩ := ht.controller
  have hlive : c.live = liveAfter cs := by
    simpa [liveAt, hk] using ht.liveAt_eq
  refine ⟨c, hk, hrc, hrc ▸ refsAfter_nonneg cs, ?_, hlive, ?_, fun hc => ?_, fun hp => ?_,
    fun o => ?_, ht.answers⟩
  · rw [hrc]
    unfold refsAfter
    omega
  · rw [hlive]
    refine List.pairwise_append.mpr ⟨ht.seenPairwise, by simp, ?_⟩
    simp only [List.mem_singleton, forall_eq]
    exact fun a ha hl => ht.seenLive a ha hl
  · refine ⟨?_, by simpa [hc] using ht.promise⟩
    rw [hd]
    simp [liveAfter, Nat.pos_iff_ne_zero.mp hc]
  · rw [hd]
    simp [liveAfter, Nat.pos_iff_ne_zero.mp hp]
  · rw [hn, ht.series o]

/-- A controller made by an execution, whose receiver closes its own promise on its first
dispatch: the dispatch is delivered, and the next finds it gone. -/
theorem receiver_closing_its_promise_leaves_a_dead_controller :
    let w₀ : World :=
      { clock := Clock.start Time.epoch,
        controllers := #[{ name := "default", receiver := .script 0 [], provider := 0,
                           logger := {} }],
        executions := #[{ promise := some { controller := 0 }, controller := some 0 }],
        metrics := some { space := "goasync", constLabels := [] } }
    let cs := [enter true, close, leave .delivered true, enter false, leave .gone false]
    JustMade 0 0 w₀ ∧ ∃ w, ControllerRun 0 0 w₀ cs w ∧
      ∃ c, w.controllers[0]? = some c ∧
        c.refs = max 0 (2 - ((releases cs + min 1 (closes cs) : Nat) : Int)) ∧ 0 ≤ c.refs ∧
        c.refs ≤ 2 ∧ c.live = liveAfter cs ∧
        (observed cs ++ [c.live]).Pairwise (fun a b => b = true → a = true) ∧
        (0 < closes cs → c.disabled = true ∧
          (w.executions[0]?).bind (·.promise) = some ⟨0, true⟩) ∧
        (0 < outcomes .panic cs → c.disabled = true) ∧
        (∀ o : Outcome, w.metric .dispatches [c.name, o.label] =
          w₀.metric .dispatches [c.name, o.label] +
            if w₀.metrics.isSome then outcomes o cs else 0) ∧
        ∀ o b, ControllerCall.leave o b ∈ cs → b = (o == .delivered) := by
  intro w₀ cs
  have h₀ : JustMade 0 0 w₀ := ⟨_, rfl, rfl, rfl, rfl⟩
  refine ⟨h₀, Exists.imp (fun w hr => ⟨hr, controller_references_and_liveness h₀ hr⟩) ?_⟩
  dsimp only [w₀, cs]
  exact ⟨_, @ControllerRun.delivered 0 0 _ _ _ _ (fun _ => closeExecution 0) _ _ _ rfl
    (.close (.nil _)) rfl rfl
    (@ControllerRun.gone 0 0 _ _ _ (fun _ => closeExecution 0) _ _ rfl rfl (.nil _))⟩

end Scenario

end HostDispatch
