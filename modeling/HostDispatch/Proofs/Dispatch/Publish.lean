import Mathlib
import HostDispatch.Proofs.Dispatch.Failure

/-!
# A publisher that hears no one

A publisher counts each completion it receives once: as published when the channel accepted it,
as failed when encoding or publishing it failed. Its encoder and its replies are scripted, so the
outcome of every completion is known in advance (`Publisher.upcoming`).

A publication the channel accepted with no subscriber tells the publisher its consumer is gone:
unless it keeps unheard channels, it closes its tracker, which closes every promise it tracks, and
any promise tracked later is closed at once. A promise is closed once however often it is closed,
and its controller then never calls a receiver again (`ControllerRun.shut`).
-/

namespace HostDispatch

namespace Publisher

/-- The outcome of a completion after `e` completions and `m` publications: none when the encoder
fails on it, and otherwise the reply its publication gets. -/
def outcomeAt (v : Publisher) (e m : Nat) : Option Reply :=
  if v.encodeFailures.contains ((e + 1 : Nat) : Int) then none else some (v.reply (m + 1))

/-- The outcome of the publisher's next completion. -/
def next (v : Publisher) : Option Reply := v.outcomeAt v.encoded v.messages.size

/-- The outcomes of `n` completions after `e` completions and `m` publications. -/
def outcomesFrom (v : Publisher) : Nat → Nat → Nat → List (Option Reply)
  | _, _, 0 => []
  | e, m, n + 1 =>
    v.outcomeAt e m :: v.outcomesFrom (e + 1) (m + if (v.outcomeAt e m).isSome then 1 else 0) n

/-- The outcomes of the publisher's next `n` completions. -/
def upcoming (v : Publisher) (n : Nat) : List (Option Reply) :=
  v.outcomesFrom v.encoded v.messages.size n

/-- Whether the channel accepted a publication: it answered a subscriber count. -/
def accepted : Option Reply → Bool
  | some (.subscribers _) => true
  | _ => false

/-- Whether an outcome closes the publisher's tracker: an accepted publication that reached no
subscriber, unless the publisher keeps unheard channels. -/
def closesOn (v : Publisher) : Option Reply → Bool
  | some (.subscribers n) => decide (n = 0) && !v.keepUnheard
  | _ => false

/-- What a completion leaves of a publisher, but for its limited logger: its script as it was, one
more completion, one more publication when the encoder did not fail, counted as published or
failed by its outcome, and its tracker closed and emptied when the outcome closes it. -/
structure Completed (v v' : Publisher) : Prop where
  replies : v'.replies = v.replies
  encodeFailures : v'.encodeFailures = v.encodeFailures
  keepUnheard : v'.keepUnheard = v.keepUnheard
  encoded : v'.encoded = v.encoded + 1
  messages : v'.messages.size = v.messages.size + if v.next.isSome then 1 else 0
  published : v'.published = v.published + if accepted v.next then 1 else 0
  failed : v'.failed = v.failed + if accepted v.next then 0 else 1
  tracker : v'.tracker = if v.closesOn v.next then { closed := true } else v.tracker

theorem outcomeAt_congr {v v' : Publisher} (hr : v'.replies = v.replies)
    (he : v'.encodeFailures = v.encodeFailures) : v'.outcomeAt = v.outcomeAt := by
  funext e m
  simp only [outcomeAt, reply, hr, he]

theorem closesOn_congr {v v' : Publisher} (hk : v'.keepUnheard = v.keepUnheard) :
    v'.closesOn = v.closesOn := by
  funext o
  simp only [Publisher.closesOn, hk]

theorem outcomesFrom_congr {v v' : Publisher} (hr : v'.replies = v.replies)
    (he : v'.encodeFailures = v.encodeFailures) : v'.outcomesFrom = v.outcomesFrom := by
  have ho := outcomeAt_congr hr he
  funext e m n
  induction n generalizing e m with
  | zero => rfl
  | succ n ih => simp only [outcomesFrom, ho, ih]

/-- After a completion, what is still to come is what came after it. -/
theorem Completed.upcoming {v v' : Publisher} (h : Completed v v') (n : Nat) :
    v.upcoming (n + 1) = v.next :: v'.upcoming n := by
  rw [Publisher.upcoming, Publisher.upcoming, outcomesFrom, outcomesFrom_congr h.replies
    h.encodeFailures, h.encoded, h.messages]
  rfl

theorem Completed.closesOn {v v' : Publisher} (h : Completed v v') : v'.closesOn = v.closesOn :=
  closesOn_congr h.keepUnheard

/-- What the rest of a scenario keeps of a publisher: its script, its counts and whether its
tracker is closed, whatever promises the tracker holds. -/
structure Kept (v v' : Publisher) : Prop where
  replies : v'.replies = v.replies
  encodeFailures : v'.encodeFailures = v.encodeFailures
  keepUnheard : v'.keepUnheard = v.keepUnheard
  encoded : v'.encoded = v.encoded
  messages : v'.messages.size = v.messages.size
  published : v'.published = v.published
  failed : v'.failed = v.failed
  closed : v'.tracker.closed = v.tracker.closed

theorem Kept.refl (v : Publisher) : Kept v v := ⟨rfl, rfl, rfl, rfl, rfl, rfl, rfl, rfl⟩

theorem Kept.trans {v₁ v₂ v₃ : Publisher} (h₁ : Kept v₁ v₂) (h₂ : Kept v₂ v₃) : Kept v₁ v₃ :=
  ⟨h₂.replies.trans h₁.replies, h₂.encodeFailures.trans h₁.encodeFailures,
    h₂.keepUnheard.trans h₁.keepUnheard, h₂.encoded.trans h₁.encoded,
    h₂.messages.trans h₁.messages, h₂.published.trans h₁.published, h₂.failed.trans h₁.failed,
    h₂.closed.trans h₁.closed⟩

theorem Kept.upcoming {v v' : Publisher} (h : Kept v v') : v'.upcoming = v.upcoming := by
  funext n
  rw [Publisher.upcoming, Publisher.upcoming, outcomesFrom_congr h.replies h.encodeFailures,
    h.encoded, h.messages]

theorem Kept.closesOn {v v' : Publisher} (h : Kept v v') : v'.closesOn = v.closesOn :=
  closesOn_congr h.keepUnheard

end Publisher

namespace Scenario

open Publisher

/-! ## Reading and writing a publisher -/

/-- The world with publisher `r` replaced and its log lines replaced: all a completion touches
before it closes promises. -/
def World.withPublisher (w : World) (r : Nat) (u : Publisher) (L : Array Json) : World :=
  { w with publishers := w.publishers.set! r u, lines := L }

section WithPublisher

variable (w : World) (r : Nat) (u : Publisher) (L : Array Json)

@[simp] theorem withPublisher_withPublisher (u' : Publisher) (L' : Array Json) :
    (w.withPublisher r u L).withPublisher r u' L' = w.withPublisher r u' L' := by
  simp [World.withPublisher, Array.setIfInBounds_setIfInBounds]

@[simp] theorem withPublisher_lines : (w.withPublisher r u L).lines = L := rfl
@[simp] theorem withPublisher_clock : (w.withPublisher r u L).clock = w.clock := rfl
@[simp] theorem withPublisher_providers : (w.withPublisher r u L).providers = w.providers := rfl
@[simp] theorem withPublisher_owners : (w.withPublisher r u L).owners = w.owners := rfl
@[simp] theorem withPublisher_controllers :
    (w.withPublisher r u L).controllers = w.controllers := rfl
@[simp] theorem withPublisher_executions :
    (w.withPublisher r u L).executions = w.executions := rfl

end WithPublisher

theorem publisher_run {r : Nat} {w : World} {v : Publisher} (h : w.publishers[r]? = some v) :
    (publisher r).run w = .ok v w := by
  obtain ⟨hr, rfl⟩ := Array.getElem?_eq_some_iff.mp h
  simp only [publisher, run_bind, get_run]
  exact slot_run _ w hr

theorem setPublisher_run (r : Nat) (u : Publisher) (w : World) :
    (setPublisher r u).run w = .ok () (w.withPublisher r u w.lines) := rfl

theorem setPublisher_run_with (r : Nat) (w : World) (u u' : Publisher) (L : Array Json) :
    (setPublisher r u').run (w.withPublisher r u L) = .ok () (w.withPublisher r u' L) := by
  simp [setPublisher_run, World.withPublisher, Array.setIfInBounds_setIfInBounds]

theorem log_run_with (r : Nat) (w : World) (u : Publisher) (L : Array Json) (l : Log.Logger)
    (s : Severity) (m : String) (fs : List Log.Field) :
    ∃ L', (log l s m fs).run (w.withPublisher r u L) = .ok () (w.withPublisher r u L') := by
  unfold log
  split
  · exact ⟨_, rfl⟩
  · exact ⟨_, rfl⟩

section Touch

variable {r : Nat} {w : World} (hr : r < w.publishers.size)
include hr

theorem publisher_run_with (u : Publisher) (L : Array Json) :
    (publisher r).run (w.withPublisher r u L) = .ok u (w.withPublisher r u L) :=
  publisher_run (by simp [World.withPublisher, hr])

/-- A line through a publisher's limited logger moves its limiter and may write a line. -/
theorem logLimited_run_with (u : Publisher) (L : Array Json) (s : Severity) (m : String)
    (fs : List Log.Field) : (logLimited r s m fs).run (w.withPublisher r u L) =
      .ok () (w.withPublisher r { u with limited := (u.limited.line? s m fs).2 }
        (((u.limited.line? s m fs).1.map L.push).getD L)) := by
  simp only [logLimited, run_bind, publisher_run_with hr, setPublisher_run_with]
  cases (u.limited.line? s m fs).1 <;> rfl

end Touch

theorem reply_record (v : Publisher) (e : Nat) (ms : Array (String × String)) (k : Nat) :
    ({ v with encoded := e, messages := ms } : Publisher).reply k = v.reply k := rfl

/-- A completion completes the publisher as `Completed` says, and then closes the promises it
tracked when its outcome closes it. -/
theorem publish_run {r : Nat} {w : World} {v : Publisher} (hv : w.publishers[r]? = some v) :
    ∃ v' L, Completed v v' ∧
      (publish r).run w = (if v.closesOn v.next then closeAll v.tracker.promises else pure ()).run
        (w.withPublisher r v' L) := by
  have hr : r < w.publishers.size := (Array.getElem?_eq_some_iff.mp hv).1
  by_cases hf : v.encodeFailures.contains ((v.encoded + 1 : Nat) : Int) = true
  · -- the encoder fails: counted as failed and logged through the limited logger
    have hn : v.next = none := by simp only [next, outcomeAt, hf, if_true]
    simp only [publish, run_bind, publisher_run hv, setPublisher_run, now_run,
      Publisher.encode, hf, if_true, publisher_run_with hr, withPublisher_withPublisher,
      withPublisher_lines, logLimited_run_with hr, hn, closesOn, Bool.false_eq_true, if_false]
    refine ⟨_, _, ?_, rfl⟩
    exact ⟨rfl, rfl, rfl, rfl, by simp [hn], by simp [hn, accepted], by simp [hn, accepted],
      by simp [hn, closesOn]⟩
  have hn : v.next = some (v.reply (v.messages.size + 1)) := by
    simp only [next, outcomeAt, hf, Bool.false_eq_true, if_false]
  simp only [publish, run_bind, publisher_run hv, setPublisher_run, now_run,
    Publisher.encode, hf, Bool.false_eq_true, if_false, publisher_run_with hr,
    Array.size_push, reply_record, withPublisher_clock]
  set ms := v.messages.push
    (v.channel, v.channel ++ "#" ++ toString (v.encoded + 1) ++ "@" ++ w.clock.now.render)
  have hms : ms.size = v.messages.size + 1 := Array.size_push ..
  cases hrep : v.reply (v.messages.size + 1)
  case subscribers n =>
    simp only [run_bind, setPublisher_run_with]
    have hcl : v.closesOn v.next = (decide (n = 0) && !v.keepUnheard) := by
      simp [hn, hrep, closesOn]
    by_cases hc : (decide (n = 0) && !v.keepUnheard) = true
    · -- no one heard it: the tracker is closed and emptied, then its promises are closed
      obtain ⟨L, hlog⟩ := log_run_with r w
        { v with encoded := v.encoded + 1, published := v.published + 1, messages := ms } w.lines
        v.logger .info "no subscribers left, closing promises" [("promises", .int v.tracker.size)]
      simp only [hc, if_true, run_bind, hlog, setPublisher_run_with, Tracker.close, hcl]
      exact ⟨{ v with encoded := v.encoded + 1, published := v.published + 1, messages := ms,
                      tracker := { closed := true } }, L,
        ⟨rfl, rfl, rfl, rfl, by simp [hn, hms], by simp [hn, hrep, accepted],
          by simp [hn, hrep, accepted], by simp [hcl, hc]⟩, rfl⟩
    · simp only [hc, Bool.false_eq_true, if_false, hcl]
      exact ⟨{ v with encoded := v.encoded + 1, published := v.published + 1, messages := ms },
        w.lines, ⟨rfl, rfl, rfl, rfl, by simp [hn, hms], by simp [hn, hrep, accepted],
          by simp [hn, hrep, accepted], by simp [hcl, hc]⟩, rfl⟩
  all_goals
    simp only [run_bind, setPublisher_run_with, logLimited_run_with hr, hn, hrep, closesOn,
      Bool.false_eq_true, if_false]
    refine ⟨_, _, ?_, rfl⟩
    exact ⟨rfl, rfl, rfl, rfl, by simp [hn, hms], by simp [hn, hrep, accepted],
      by simp [hn, hrep, accepted], by simp [hn, hrep, closesOn]⟩

/-! ## Closing promises -/

/-- The promise held in execution slot `q`, if any. -/
def World.promiseAt (w : World) (q : Nat) : Option Promise := (w.executions[q]?).bind (·.promise)

/-- The world with its controllers, executions and log lines replaced: all that closing promises
touches. -/
def World.withSide (w : World) (cs : Array Controller) (es : Array Execution) (L : Array Json) :
    World :=
  { w with controllers := cs, executions := es, lines := L }

section WithSide

variable (w : World) (cs : Array Controller) (es : Array Execution) (L : Array Json)

@[simp] theorem withSide_withSide (cs' : Array Controller) (es' : Array Execution)
    (L' : Array Json) : (w.withSide cs es L).withSide cs' es' L' = w.withSide cs' es' L' := rfl

@[simp] theorem withSide_controllers : (w.withSide cs es L).controllers = cs := rfl
@[simp] theorem withSide_executions : (w.withSide cs es L).executions = es := rfl
@[simp] theorem withSide_lines : (w.withSide cs es L).lines = L := rfl
@[simp] theorem withSide_publishers : (w.withSide cs es L).publishers = w.publishers := rfl
@[simp] theorem withSide_providers : (w.withSide cs es L).providers = w.providers := rfl
@[simp] theorem withSide_clock : (w.withSide cs es L).clock = w.clock := rfl
@[simp] theorem withSide_owners : (w.withSide cs es L).owners = w.owners := rfl
@[simp] theorem withSide_metrics : (w.withSide cs es L).metrics = w.metrics := rfl

end WithSide

theorem release_made_side {k : Nat} {w : World} {c : Controller}
    (hk : w.controllers[k]? = some c) :
    ∃ L, (release (.made k)).run w =
      .ok () (w.withSide (w.controllers.set! k c.release.1) w.executions L) := by
  simp only [release, run_bind, controller_run hk, setController, modify_run]
  split
  · unfold log
    split
    · exact ⟨_, rfl⟩
    · exact ⟨_, rfl⟩
  · exact ⟨_, rfl⟩

/-- Closing a promise still open disables its controller, releases it once and marks the promise
closed; nothing else changes but the log lines. -/
theorem closeExecution_open_run {k q : Nat} {w : World} {e : Execution} {c : Controller}
    (he : w.executions[q]? = some e) (hp : e.promise = some ⟨k, false⟩)
    (hk : w.controllers[k]? = some c) :
    ∃ L, (closeExecution q).run w = .ok () (w.withSide (w.controllers.set! k c.disable.release.1)
      (w.executions.set! q { e with promise := some ⟨k, true⟩ }) L) := by
  obtain ⟨hq, rfl⟩ := Array.getElem?_eq_some_iff.mp he
  have hlt : k < w.controllers.size := (Array.getElem?_eq_some_iff.mp hk).1
  have hk' : ({ w with controllers := w.controllers.set! k c.disable } : World).controllers[k]? =
      some c.disable := by simp [hlt]
  obtain ⟨L, hrel⟩ := release_made_side hk'
  refine ⟨L, ?_⟩
  simp only [closeExecution, run_bind, get_run, slot_run _ w hq, hp, closePromise,
    Bool.false_eq_true, if_false, controller_run hk, setController, modify_run, hrel, pure_run]
  simp only [withSide_executions, slot_run _ _ hq]
  simp [World.withSide, Array.setIfInBounds_setIfInBounds]

/-- The books of the promises of a world: each closes a controller the world has, no two close
the same one, no controller has fewer than no references, and the controller of a closed promise
is disabled. -/
structure Owned (w : World) : Prop where
  valid : ∀ q pr, w.promiseAt q = some pr → pr.controller < w.controllers.size
  apart : ∀ q q' pr pr', w.promiseAt q = some pr → w.promiseAt q' = some pr' →
    pr.controller = pr'.controller → q = q'
  refs : ∀ (k : Nat) (c : Controller), w.controllers[k]? = some c → 0 ≤ c.refs
  closed : ∀ (q k : Nat) (c : Controller), w.promiseAt q = some ⟨k, true⟩ → w.controllers[k]? = some c →
    c.disabled = true

/-- The controller of a promise is one the world has. -/
theorem Owned.controller {w : World} (ho : Owned w) {q : Nat} {pr : Promise}
    (hp : w.promiseAt q = some pr) : ∃ c, w.controllers[pr.controller]? = some c :=
  ⟨_, Array.getElem?_eq_getElem (ho.valid q pr hp)⟩

/-- The world `w'` is `w` with the promises of the slots `qs` closed: each of them ends closed and
the controller of one that was open is disabled and released once, while the controllers no such
promise closes are untouched; nothing else changes but the log lines. -/
structure ClosedIn (qs : List Nat) (w w' : World) : Prop where
  side : ∃ cs es L, w' = w.withSide cs es L
  controllers : w'.controllers.size = w.controllers.size
  executions : w'.executions.size = w.executions.size
  promises : ∀ q, w'.promiseAt q =
    (w.promiseAt q).map fun pr => { pr with closed := pr.closed || decide (q ∈ qs) }
  released : ∀ (q k : Nat) (cl : Bool) (c : Controller), w.promiseAt q = some ⟨k, cl⟩ →
    w.controllers[k]? = some c →
      w'.controllers[k]? = some (if cl || decide (q ∉ qs) then c else c.disable.release.1)
  others : ∀ k, (∀ q pr, w.promiseAt q = some pr → q ∈ qs → pr.controller ≠ k) →
    w'.controllers[k]? = w.controllers[k]?

section ClosedIn

variable {qs qs' : List Nat} {w w' w₁ w₂ : World}

theorem ClosedIn.nil (w : World) : ClosedIn [] w w where
  side := ⟨w.controllers, w.executions, w.lines, rfl⟩
  controllers := rfl
  executions := rfl
  promises q := by cases w.promiseAt q <;> simp
  released q k cl c hp hc := by simp [hc]
  others _ _ := rfl

/-- Closing the promises of `qs` and then of `qs'` closes those of both. -/
theorem ClosedIn.append (h₁ : ClosedIn qs w w₁) (h₂ : ClosedIn qs' w₁ w₂) :
    ClosedIn (qs ++ qs') w w₂ where
  side := by
    obtain ⟨cs, es, L, rfl⟩ := h₁.side
    obtain ⟨cs', es', L', rfl⟩ := h₂.side
    exact ⟨cs', es', L', rfl⟩
  controllers := h₂.controllers.trans h₁.controllers
  executions := h₂.executions.trans h₁.executions
  promises q := by
    rw [h₂.promises, h₁.promises, Option.map_map]
    congr 1
    funext pr
    simp [Bool.or_assoc]
  released q k cl c hp hc := by
    have hp₁ : w₁.promiseAt q = some ⟨k, cl || decide (q ∈ qs)⟩ := by simp [h₁.promises, hp]
    rw [h₂.released q k _ _ hp₁ (h₁.released q k cl c hp hc)]
    -- a promise closed before, or by the first run, is not closed again by the second
    by_cases hcl : cl = true <;> by_cases hq : q ∈ qs <;> by_cases hq' : q ∈ qs' <;> simp [hcl, hq, hq']
  others k hk := by
    have h₁k := h₁.others k fun q pr hp hq => hk q pr hp (List.mem_append_left _ hq)
    refine (h₂.others k fun q pr hp hq => ?_).trans h₁k
    rw [h₁.promises] at hp
    obtain ⟨pr₀, hp₀, rfl⟩ := Option.map_eq_some_iff.mp hp
    exact hk q pr₀ hp₀ (List.mem_append_right _ hq)

/-- Closing promises keeps the books: a controller it touches ends with no fewer than no
references, and disabled when its promise is closed. -/
theorem ClosedIn.owned (ho : Owned w) (h : ClosedIn qs w w') : Owned w' where
  valid q pr hp := by
    rw [h.promises] at hp
    obtain ⟨pr₀, hp₀, rfl⟩ := Option.map_eq_some_iff.mp hp
    exact h.controllers ▸ ho.valid q pr₀ hp₀
  apart q q' pr pr' hp hp' he := by
    rw [h.promises] at hp hp'
    obtain ⟨pr₀, hp₀, rfl⟩ := Option.map_eq_some_iff.mp hp
    obtain ⟨pr₀', hp₀', rfl⟩ := Option.map_eq_some_iff.mp hp'
    exact ho.apart q q' pr₀ pr₀' hp₀ hp₀' he
  refs k c hc := by
    by_cases hk : ∃ q pr, w.promiseAt q = some pr ∧ q ∈ qs ∧ pr.controller = k
    · obtain ⟨q, ⟨k', cl⟩, hp, -, rfl⟩ := hk
      obtain ⟨c₀, hc₀⟩ := ho.controller hp
      rw [h.released q _ cl c₀ hp hc₀] at hc
      have hr₀ := ho.refs _ c₀ hc₀
      split at hc <;> cases hc
      · exact hr₀
      · exact (c₀.disable.release_fst hr₀).1 ▸ le_max_left 0 _
    · simp only [not_exists, not_and] at hk
      rw [h.others k fun q pr hp hq => hk q pr hp hq] at hc
      exact ho.refs k c hc
  closed q k c hp hc := by
    rw [h.promises] at hp
    obtain ⟨⟨k', cl⟩, hp₀, hpr⟩ := Option.map_eq_some_iff.mp hp
    simp only [Promise.mk.injEq] at hpr
    obtain ⟨rfl, hcl⟩ := hpr
    obtain ⟨c₀, hc₀⟩ := ho.controller hp₀
    rw [h.released q k' cl c₀ hp₀ hc₀] at hc
    -- an open promise of `qs` had its controller disabled; a closed one had it already
    by_cases hcl' : cl = true
    · simp only [hcl', Bool.true_or, if_true, Option.some.injEq] at hc
      exact hc ▸ ho.closed q k' c₀ (hcl' ▸ hp₀) hc₀
    · have hq : q ∈ qs := by simpa [hcl'] using hcl
      simp only [hcl', hq, Bool.false_or, Bool.false_eq_true, if_false, Option.some.injEq,
        not_true_eq_false, decide_false] at hc
      rw [← hc, (c₀.disable.release_fst (ho.refs _ c₀ hc₀)).2.1]
      simp [Controller.disable]

/-- Closing a slot whose promise is closed, or that holds none, leaves the world as it is. -/
theorem ClosedIn.self {q : Nat} (h : ∀ pr ∈ w.promiseAt q, pr.closed = true) :
    ClosedIn [q] w w where
  side := ⟨w.controllers, w.executions, w.lines, rfl⟩
  controllers := rfl
  executions := rfl
  promises q₀ := by
    by_cases hq : q₀ = q
    · subst hq
      cases hp : w.promiseAt q₀ with
      | none => rfl
      | some pr =>
        obtain ⟨k, cl⟩ := pr
        obtain rfl : cl = true := h _ hp
        simp
    · cases w.promiseAt q₀ <;> simp [hq]
  released q₀ k cl c hp hc := by
    by_cases hq : q₀ = q
    · subst hq
      have hcl : cl = true := h _ hp
      simp [hcl, hc]
    · simp [hq, hc]
  others _ _ := rfl

end ClosedIn

/-- Closing the promise of a slot closes it as `ClosedIn` says. -/
theorem closeExecution_closedIn {q : Nat} {w : World} (ho : Owned w)
    (hq : q < w.executions.size) :
    ∃ w', (closeExecution q).run w = .ok () w' ∧ ClosedIn [q] w w' := by
  have he : w.executions[q]? = some w.executions[q] := Array.getElem?_eq_getElem hq
  have hpq : w.promiseAt q = w.executions[q].promise := by simp [World.promiseAt, he]
  -- a promise still open is the only one whose closing does anything
  by_cases hidle : ∀ pr ∈ w.executions[q].promise, pr.closed = true
  · exact ⟨w, closeExecution_idle_run he hidle, ClosedIn.self (hpq ▸ hidle)⟩
  obtain ⟨⟨k, cl⟩, hpr, hcl⟩ : ∃ pr, w.executions[q].promise = some pr ∧ ¬pr.closed = true := by
    simpa using hidle
  obtain rfl : cl = false := by simpa using hcl
  obtain ⟨c, hk⟩ := ho.controller (hpq.trans hpr)
  have hlt : k < w.controllers.size := (Array.getElem?_eq_some_iff.mp hk).1
  obtain ⟨L, hrun⟩ := closeExecution_open_run he hpr hk
  refine ⟨_, hrun, ⟨⟨_, _, L, rfl⟩, by simp, by simp, fun q₀ => ?_, ?_, ?_⟩⟩
  · by_cases h₀ : q₀ = q
    · subst h₀
      simp [World.promiseAt, hq, hpr]
    · simp [World.promiseAt, Ne.symm h₀, h₀]
  · intro q₀ k₀ cl₀ c₀ hp₀ hc₀
    by_cases h₀ : q₀ = q
    · subst h₀
      rw [hpq, hpr] at hp₀
      obtain ⟨rfl, rfl⟩ : k = k₀ ∧ false = cl₀ := by simpa using hp₀
      obtain rfl : c = c₀ := by simpa [hk] using hc₀
      simp [hlt]
    · -- another promise closes another controller, which is left as it was
      have hk₀ : k ≠ k₀ := fun hkk => h₀ (ho.apart q₀ q _ _ hp₀ (hpq.trans hpr) hkk.symm)
      simp [hk₀, hc₀, h₀]
  · intro k' hk'
    have hne : k ≠ k' := hk' q ⟨k, false⟩ (hpq.trans hpr) (List.mem_singleton_self q)
    simp [hne]

/-- Closing the promises of a list of slots closes them all as `ClosedIn` says, and keeps the
books. -/
theorem closeAll_closedIn {qs : List Nat} {w : World} (ho : Owned w)
    (hqs : ∀ q ∈ qs, q < w.executions.size) :
    ∃ w', (closeAll qs).run w = .ok () w' ∧ ClosedIn qs w w' ∧ Owned w' := by
  induction qs generalizing w with
  | nil => exact ⟨w, rfl, ClosedIn.nil w, ho⟩
  | cons q qs ih =>
    obtain ⟨w₁, h₁, hc₁⟩ := closeExecution_closedIn ho (hqs q List.mem_cons_self)
    have ho₁ := hc₁.owned ho
    obtain ⟨w₂, h₂, hc₂, ho₂⟩ := ih ho₁ fun q' hq' =>
      hc₁.executions ▸ hqs q' (List.mem_cons_of_mem q hq')
    refine ⟨w₂, ?_, hc₁.append hc₂, ho₂⟩
    show (closeExecution q >>= fun _ => closeAll qs).run w = _
    rw [run_bind, h₁]
    exact h₂

/-! ## Counting completions -/

theorem after_slot {α : Type} [Inhabited α] (xs : Array α) (what : String) (i : Int)
    (w : World) : after (slot xs what i) w = w := by
  unfold slot
  split <;> rfl

/-- Closing a promise, even one whose closing fails, leaves the publishers alone. -/
theorem fixes_publishers_closeExecution (q : Nat) :
    Fixes World.publishers (closeExecution q) := by
  unfold closeExecution closePromise release
  repeat' (first
    | exact fixes_pure _
    | exact fun _ => rfl
    | exact fun w => congrArg World.publishers (after_slot _ _ _ w)
    | exact fun w => by rw [after_log_lines]
    | refine Fixes.bind ?_ fun _ => ?_
    | dsimp only
    | split)

theorem fixes_publishers_closeAll (qs : List Nat) : Fixes World.publishers (closeAll qs) := by
  induction qs with
  | nil => exact fixes_pure _
  | cons q qs ih => exact Fixes.bind (fixes_publishers_closeExecution q) fun _ => ih

/-- After a completion, even one whose closing of promises fails, the publisher is completed. -/
theorem after_publish {r : Nat} {w : World} {v : Publisher} (hv : w.publishers[r]? = some v) :
    ∃ v', Completed v v' ∧ (after (publish r) w).publishers[r]? = some v' := by
  obtain ⟨v', L, hc, hrun⟩ := publish_run hv
  have hr : r < w.publishers.size := (Array.getElem?_eq_some_iff.mp hv).1
  have hafter : after (publish r) w = after
      (if v.closesOn v.next then closeAll v.tracker.promises else pure ()) (w.withPublisher r v' L) :=
    by simp only [after, hrun]
  refine ⟨v', hc, ?_⟩
  rw [hafter]
  split
  · rw [fixes_publishers_closeAll]
    simp [World.withPublisher, hr]
  · simp [World.withPublisher, hr]

/-- A run of completions handed to publisher `r`, recording the outcome each one meets; between
them the rest of the scenario may do what keeps the publisher as `Kept` says. -/
inductive Completions (r : Nat) : World → List (Option Reply) → World → Prop
  | nil (w : World) : Completions r w [] w
  | complete {w w' : World} {v : Publisher} {os : List (Option Reply)} :
      w.publishers[r]? = some v → Completions r (after (publish r) w) os w' →
      Completions r w (v.next :: os) w'
  | beside {w w₁ w' : World} {os : List (Option Reply)} :
      (∀ v ∈ w.publishers[r]?, ∃ v' ∈ w₁.publishers[r]?, Kept v v') →
      Completions r w₁ os w' → Completions r w os w'

/-- Over a run of completions the outcomes are the scripted ones, in order; each completion is
counted once, as published exactly when the channel accepted it and as failed otherwise; and the
tracker ends closed exactly when it was, or an outcome closed it. -/
theorem Completions.counts {r : Nat} {w w' : World} {os : List (Option Reply)}
    (h : Completions r w os w') {v : Publisher} (hv : w.publishers[r]? = some v) :
    ∃ v', w'.publishers[r]? = some v' ∧ os = v.upcoming os.length ∧
      v'.encoded = v.encoded + os.length ∧
      v'.published = v.published + os.countP accepted ∧
      v'.failed = v.failed + os.countP (fun o => !accepted o) ∧
      v'.tracker.closed = (v.tracker.closed || os.any v.closesOn) := by
  induction h generalizing v with
  | nil w => exact ⟨v, hv, rfl, by simp, by simp, by simp, by simp⟩
  | @complete w w' v₀ os hv₀ _ ih =>
    obtain rfl : v₀ = v := Option.some.inj (hv₀.symm.trans hv)
    obtain ⟨v₁, hc, hv₁⟩ := after_publish hv₀
    obtain ⟨v', hv', hos, he, hp, hf, hcl⟩ := ih hv₁
    refine ⟨v', hv', ?_, ?_, ?_, ?_, ?_⟩
    · rw [List.length_cons, hc.upcoming, ← hos]
    · rw [he, hc.encoded, List.length_cons]
      omega
    · rw [hp, hc.published, List.countP_cons]
      omega
    · rw [hf, hc.failed, List.countP_cons]
      cases accepted v₀.next
      · simp only [Bool.not_false, if_true, Bool.false_eq_true, if_false]
        omega
      · simp
    · rw [hcl, hc.tracker, hc.closesOn, List.any_cons]
      cases v₀.closesOn v₀.next <;> simp
  | beside hk _ ih =>
    obtain ⟨v₁, hv₁, hkv⟩ := hk v hv
    obtain ⟨v', hv', hos, he, hp, hf, hcl⟩ := ih hv₁
    exact ⟨v', hv', by rw [hkv.upcoming] at hos; exact hos, by rw [he, hkv.encoded],
      by rw [hp, hkv.published], by rw [hf, hkv.failed], by rw [hcl, hkv.closed, hkv.closesOn]⟩

/-! ## Tearing down -/

theorem ClosedIn.frame {qs : List Nat} {w w' : World} (h : ClosedIn qs w w') :
    w'.publishers = w.publishers ∧ w'.providers = w.providers ∧ w'.clock = w.clock ∧
      w'.owners = w.owners := by
  obtain ⟨cs, es, L, rfl⟩ := h.side
  exact ⟨rfl, rfl, rfl, rfl⟩

theorem Owned.withPublisher {w : World} (ho : Owned w) (r : Nat) (u : Publisher) (L : Array Json) :
    Owned (w.withPublisher r u L) :=
  ⟨ho.valid, ho.apart, ho.refs, ho.closed⟩

/-- Under kept books the controller of a closed promise calls its receiver no more. -/
theorem Owned.silent {w : World} (ho : Owned w) {k q : Nat}
    (hp : w.promiseAt q = some ⟨k, true⟩) : Silent k q w := by
  obtain ⟨c, hk⟩ := ho.controller hp
  refine ⟨⟨c, hk, ho.refs k c hk, ho.closed q k c hp hk⟩, fun pr hpr => ?_⟩
  obtain rfl : pr = ⟨k, true⟩ := Option.some.inj (hpr.symm.trans hp)
  rfl

/-- Under kept books a completion runs to its end: it completes the publisher, and when its outcome
closes the tracker it closes every promise the tracker held, as `ClosedIn` says; otherwise it
closes none. -/
theorem publish_books {r : Nat} {w : World} {v : Publisher} (hv : w.publishers[r]? = some v)
    (ho : Owned w) (ht : ∀ q ∈ v.tracker.promises, q < w.executions.size) :
    ∃ v' L w', Completed v v' ∧ (publish r).run w = .ok () w' ∧
      ClosedIn (if v.closesOn v.next then v.tracker.promises else []) (w.withPublisher r v' L) w' ∧
      Owned w' := by
  obtain ⟨v', L, hc, hrun⟩ := publish_run hv
  by_cases hcl : v.closesOn v.next = true
  · obtain ⟨w', h', hin, ho'⟩ := closeAll_closedIn (ho.withPublisher r v' L) ht
    rw [hcl, if_pos rfl] at hrun
    exact ⟨v', L, w', hc, hrun.trans h', by rwa [if_pos hcl], ho'⟩
  · rw [if_neg hcl] at hrun
    exact ⟨v', L, _, hc, hrun, by simpa [hcl] using ClosedIn.nil _, ho.withPublisher r v' L⟩

/-- Tracking a promise in a closed tracker closes it at once, as `ClosedIn` says, and leaves the
tracker as it is. -/
theorem trackIn_closed {t : Tracker} {q : Nat} {e : Execution} {w : World} (ht : t.closed = true)
    (he : e.promise.isSome) (ho : Owned w) (hq : q < w.executions.size) :
    ∃ w', (trackIn t q e).run w = .ok t w' ∧ ClosedIn [q] w w' ∧ Owned w' := by
  obtain ⟨pr, hpr⟩ := Option.isSome_iff_exists.mp he
  obtain ⟨w', h', hin⟩ := closeExecution_closedIn ho hq
  refine ⟨w', ?_, hin, hin.owned ho⟩
  simp only [trackIn, hpr, Tracker.track, ht, if_true, run_bind, h', pure_run]

/-- Closing a promise closed already changes nothing. -/
theorem closeExecution_closed_run {q k : Nat} {w : World} (hp : w.promiseAt q = some ⟨k, true⟩) :
    (closeExecution q).run w = .ok () w := by
  cases he : w.executions[q]? with
  | none => simp [World.promiseAt, he] at hp
  | some e =>
    have hpe : e.promise = some ⟨k, true⟩ := by simpa [World.promiseAt, he] using hp
    refine closeExecution_idle_run he fun pr hpr => ?_
    obtain rfl : pr = ⟨k, true⟩ := Option.some.inj (hpr.symm.trans hpe)
    rfl

/-- Promise `q` of controller `k`, found as `c` and closed already when `cl`, torn down in `w`: the
promise is closed, so that closing it again changes nothing; its controller was disabled and
released once for it if it was open, and left as it was otherwise; and no run of calls on the
controller reaches its receiver again. -/
structure TornDown (k q : Nat) (cl : Bool) (c : Controller) (w : World) : Prop where
  promise : w.promiseAt q = some ⟨k, true⟩
  again : (closeExecution q).run w = .ok () w
  controller : w.controllers[k]? = some (if cl then c else c.disable.release.1)
  silent : ∀ cs w', ControllerRun k q w cs w' →
    (∀ b ∈ ControllerCall.observed cs, b = false) ∧
      ∀ o b, ControllerCall.leave o b ∈ cs → o = .gone ∧ b = false

/-- Each promise of the slots `qs` is torn down once they are closed under kept books. -/
theorem ClosedIn.tornDown {qs : List Nat} {w w' : World} (h : ClosedIn qs w w') (ho : Owned w)
    {q k : Nat} {cl : Bool} {c : Controller} (hq : q ∈ qs) (hp : w.promiseAt q = some ⟨k, cl⟩)
    (hc : w.controllers[k]? = some c) : TornDown k q cl c w' := by
  have hp' : w'.promiseAt q = some ⟨k, true⟩ := by simp [h.promises, hp, hq]
  refine ⟨hp', closeExecution_closed_run hp', by simpa [hq] using h.released q k cl c hp hc,
    fun cs w'' hr => ?_⟩
  obtain ⟨-, -, -, hs, hl⟩ := hr.silent ((h.owned ho).silent hp')
  exact ⟨hs, hl⟩

/-- Under kept books a completion runs to its end. One whose outcome closes the tracker leaves it
closed and empty and tears down every promise it tracked; any other changes nothing but the
publisher and the log lines. -/
theorem publish_teardown {r : Nat} {w : World} {v : Publisher} (hv : w.publishers[r]? = some v)
    (ho : Owned w) (ht : ∀ q ∈ v.tracker.promises, q < w.executions.size) :
    ∃ v' w', (publish r).run w = .ok () w' ∧ Completed v v' ∧ w'.publishers[r]? = some v' ∧
      Owned w' ∧
      (v.closesOn v.next = true → v'.tracker = { closed := true } ∧
        ∀ q ∈ v.tracker.promises, ∀ k cl c, w.promiseAt q = some ⟨k, cl⟩ →
          w.controllers[k]? = some c → TornDown k q cl c w') ∧
      (v.closesOn v.next = false → ∃ L, w' = w.withPublisher r v' L) := by
  have hr : r < w.publishers.size := (Array.getElem?_eq_some_iff.mp hv).1
  obtain ⟨v', L, hc, hrun⟩ := publish_run hv
  by_cases hcl : v.closesOn v.next = true
  · obtain ⟨w', h', hin, ho'⟩ := closeAll_closedIn (ho.withPublisher r v' L) ht
    rw [if_pos hcl] at hrun
    refine ⟨v', w', hrun.trans h', hc, by simp [hin.frame.1, World.withPublisher, hr], ho',
      fun _ => ⟨by simp [hc.tracker, hcl], fun q hq k cl c hp hk => ?_⟩, by simp [hcl]⟩
    exact hin.tornDown (ho.withPublisher r v' L) hq hp hk
  · rw [if_neg hcl] at hrun
    exact ⟨v', _, hrun, hc, by simp [World.withPublisher, hr], ho.withPublisher r v' L,
      fun h => absurd h hcl, fun _ => ⟨L, rfl⟩⟩

/-- A promise tracked in a closed tracker is torn down at once. -/
theorem trackIn_closed_tornDown {t : Tracker} {q k : Nat} {cl : Bool} {e : Execution} {c : Controller}
    {w : World} (ht : t.closed = true) (he : w.executions[q]? = some e)
    (hp : e.promise = some ⟨k, cl⟩) (hc : w.controllers[k]? = some c) (ho : Owned w) :
    ∃ w', (trackIn t q e).run w = .ok t w' ∧ TornDown k q cl c w' ∧ Owned w' := by
  have hq : q < w.executions.size := (Array.getElem?_eq_some_iff.mp he).1
  obtain ⟨w', hrun, hin, ho'⟩ := trackIn_closed ht (show e.promise.isSome by simp [hp]) ho hq
  have hpq : w.promiseAt q = some ⟨k, cl⟩ := by simp [World.promiseAt, he, hp]
  exact ⟨w', hrun, hin.tornDown ho (List.mem_singleton_self q) hpq hc, ho'⟩

end Scenario

end HostDispatch
