import Mathlib
import HostDispatch.Proofs.Scheduler.Destroyed

/-!
# The books of a run

A cancel succeeds exactly for an action that is pending: armed, not canceled since, and not yet
fired if it is a one-shot. Whether an action is pending is read off what a client saw: a run shown
event by event (`Port.Trace`), where each arming answers the id it handed out, each cancel that
succeeded names its action, and each firing taken names its action and kind. `Clock.Books` ties
the queue to these events and is kept by every step: the queue holds exactly the pending actions,
as many as were armed less those canceled and the one-shot firings. `Manual.cancel_is_exact`
carries this to the clock over the heap.
-/

namespace HostDispatch

namespace Port

variable {S : Type} (P : Port S)

/-- A run shown step by step: every call, start of an advance and firing taken shows as its event,
and the end of an advance, once nothing more is due, shows nothing. -/
inductive Trace : S → List Event → S → Prop
  | nil (s : S) : Trace s [] s
  | shows {s s₁ s₂ : S} {e : Event} {es : List Event} :
      Shows P s e s₁ → Trace s₁ es s₂ → Trace s (e :: es) s₂
  | finish {s s₁ : S} {t : Time} {es : List Event} :
      P.takeDue s t = none → Trace (P.finishAdvance s t) es s₁ → Trace s es s₁

namespace Event

/-- The id an event shows handed out by an arming. -/
def armed : Event → Option Nat
  | .call (.scheduleOnce _ _) (.armed (.ok id)) => some id
  | .call (.scheduleEvery _ _) (.armed (.ok id)) => some id
  | _ => none

/-- The action an event shows canceled: the one of a cancel that succeeded. -/
def canceled : Event → Option Nat
  | .call (.cancel (some id)) (.canceled (.ok _)) => some id
  | _ => none

/-- The action an event shows fired for the last time: a one-shot taken from the queue. -/
def spent : Event → Option Nat
  | .fired f _ _ => if f.kind = .once then some f.action else none
  | _ => none

end Event

/-- An action is pending after a run's events when it was armed, is not canceled since, and, if it
is a one-shot, has not fired. -/
def Pending (es : List Event) (id : Nat) : Prop :=
  id ∈ es.filterMap Event.armed ∧ id ∉ es.filterMap Event.canceled ∧
    id ∉ es.filterMap Event.spent

end Port

namespace Clock

open Port

/-! ## What a cancel does -/

/-- A cancel of a pending action takes it out of the queue and counts one cancel. -/
theorem cancel_of_pending {k : Clock} {id : Nat} (h : ∃ x ∈ k.queue.entries, x.id = id) :
    k.cancel (some id) =
      (.ok { k with queue := { k.queue with entries := k.queue.entries.filter (·.id != id) },
                    stats := { k.stats with canceled := k.stats.canceled + 1 } },
        { k with queue := { k.queue with entries := k.queue.entries.filter (·.id != id) },
                 stats := { k.stats with canceled := k.stats.canceled + 1 } }) := by
  have hq : k.queue.cancel id =
      some { k.queue with entries := k.queue.entries.filter (·.id != id) } :=
    Queue.cancel_eq_some.mpr ⟨h, rfl⟩
  simp only [cancel, Option.bind_some, hq]

/-- A cancel of anything not pending answers so, counts one misuse and changes nothing else. -/
theorem cancel_of_not_pending {k : Clock} {a : Option Nat}
    (h : ∀ id, a = some id → ∀ x ∈ k.queue.entries, x.id ≠ id) :
    k.cancel a = (.error (.sentinel .actionNotPending),
      { k with stats := { k.stats with cancelMisuse := k.stats.cancelMisuse + 1 } }) := by
  cases a with
  | none => rfl
  | some id =>
    have hq : k.queue.cancel id = none := Queue.cancel_eq_none.mpr (h id rfl)
    simp only [cancel, Option.bind_some, hq]

/-- In a list with distinct ids, no action around one has its id. -/
theorem id_not_mem_around {pre post : List Action} {x : Action}
    (hn : ((pre ++ x :: post).map (·.id)).Nodup) : x.id ∉ (pre ++ post).map (·.id) := by
  rw [List.map_append, List.map_cons] at hn
  have := List.nodup_middle.mp hn
  rw [List.nodup_cons, ← List.map_append] at this
  exact this.1

/-- Taking the action with a given id out of a list with distinct ids keeps the others in order. -/
theorem filter_id_of_mem {l : List Action} (hn : (l.map (·.id)).Nodup) {x : Action}
    (hx : x ∈ l) : ∃ pre post, l = pre ++ x :: post ∧ l.filter (·.id != x.id) = pre ++ post := by
  obtain ⟨pre, post, rfl⟩ := List.append_of_mem hx
  refine ⟨pre, post, rfl, ?_⟩
  have hd : x.id ∉ pre.map (·.id) ∧ x.id ∉ post.map (·.id) := by
    simpa only [List.map_append, List.mem_append, not_or] using id_not_mem_around hn
  have hkeep : ∀ l' : List Action, x.id ∉ l'.map (·.id) → l'.filter (·.id != x.id) = l' :=
    fun l' hl' => List.filter_eq_self.mpr fun y hy => by
      simp only [bne_iff_ne, ne_eq]
      exact fun e => hl' (List.mem_map.mpr ⟨y, hy, e⟩)
  simp [List.filter_append, hkeep pre hd.1, hkeep post hd.2]

/-- An arming that succeeds counts one more scheduled action, and no cancel. -/
theorem schedule_stats {k k' : Clock} {cont : Option Nat} {kind : Kind} {d : Int} {id : Nat}
    (h : k.schedule cont kind d = .ok (id, k')) :
    k'.stats.scheduledOnce + k'.stats.scheduledEvery =
      k.stats.scheduledOnce + k.stats.scheduledEvery + 1 ∧ k'.stats.canceled = k.stats.canceled := by
  cases cont with
  | none => simp [schedule] at h
  | some c =>
    simp only [schedule] at h
    split at h
    · cases h
    · obtain ⟨rfl, rfl⟩ := Prod.mk.inj (Except.ok.inj h)
      cases kind
      · exact ⟨by simp only; omega, rfl⟩
      · exact ⟨by simp only; omega, rfl⟩

/-- Destroying a continuation counts it as destroyed, at most, and touches no other counter. -/
theorem destroyContinuation_stats_cases (k : Clock) (x : Option Nat) :
    (k.destroyContinuation x).stats = k.stats ∨
      (k.destroyContinuation x).stats = { k.stats with destroyed := k.stats.destroyed + 1 } := by
  unfold destroyContinuation
  split
  · exact .inl rfl
  · split
    · exact .inl rfl
    · exact .inr rfl

/-! ## The books a run keeps -/

/-- What the events of a run from the start say about the clock it reaches: the ids handed out
are those from 1 to the last one, every action canceled or spent was armed, the queue holds
exactly the pending actions, and it holds as many as were armed less those canceled and spent. -/
structure Books (k : Clock) (es : List Port.Event) : Prop where
  inv : k.Inv
  armed : ∀ id, id ∈ es.filterMap Port.Event.armed ↔ 0 < id ∧ id ≤ k.queue.lastId
  canceled : ∀ id ∈ es.filterMap Port.Event.canceled, id ∈ es.filterMap Port.Event.armed
  spent : ∀ id ∈ es.filterMap Port.Event.spent, id ∈ es.filterMap Port.Event.armed
  pending : ∀ id, (∃ x ∈ k.queue.entries, x.id = id) ↔ Port.Pending es id
  count : k.pending + k.stats.canceled + (es.filterMap Port.Event.spent).length =
    k.stats.scheduledOnce + k.stats.scheduledEvery

theorem books_start (t : Time) : Books (start t) [] where
  inv := inv_start t
  armed id := by
    simp [start]
    omega
  canceled := by simp
  spent := by simp
  pending id := by simp [start, Port.Pending]
  count := rfl

section Books

variable {k k' : Clock} {es : List Port.Event} {e : Port.Event}

/-- A step that arms nothing, cancels nothing and spends nothing keeps the books: the same ids
stay pending, and as many. -/
theorem Books.quiet (h : Books k es) (hk' : k'.Inv)
    (hids : ∀ i, (∃ x ∈ k'.queue.entries, x.id = i) ↔ ∃ x ∈ k.queue.entries, x.id = i)
    (hlast : k'.queue.lastId = k.queue.lastId) (hlen : k'.pending = k.pending)
    (hs : k'.stats.scheduledOnce + k'.stats.scheduledEvery =
      k.stats.scheduledOnce + k.stats.scheduledEvery)
    (hc : k'.stats.canceled = k.stats.canceled) (ha : e.armed = none) (hx : e.canceled = none)
    (hsp : e.spent = none) : Books k' (es ++ [e]) where
  inv := hk'
  armed id := by simpa [ha, hlast] using h.armed id
  canceled id := by simpa [ha, hx] using h.canceled id
  spent id := by simpa [ha, hsp] using h.spent id
  pending id := by simpa [Port.Pending, ha, hx, hsp, hids] using h.pending id
  count := by simpa [hlen, hc, hs, hsp] using h.count

/-- A step that leaves the queue as it is and arms, cancels and spends nothing keeps the books. -/
theorem Books.keep (h : Books k es) (hk' : k'.Inv) (hq : k'.queue = k.queue)
    (hs : k'.stats.scheduledOnce + k'.stats.scheduledEvery =
      k.stats.scheduledOnce + k.stats.scheduledEvery)
    (hc : k'.stats.canceled = k.stats.canceled) (ha : e.armed = none) (hx : e.canceled = none)
    (hsp : e.spent = none) : Books k' (es ++ [e]) :=
  h.quiet hk' (fun _ => by rw [hq]) (by rw [hq]) (by simp only [Clock.pending, Queue.size, hq]) hs
    hc ha hx hsp

/-- With distinct ids, the ids left after taking one action out are the others. -/
theorem ids_erase {pre post : List Action} {x : Action}
    (hn : ((pre ++ x :: post).map (·.id)).Nodup) (i : Nat) :
    (∃ y ∈ pre ++ post, y.id = i) ↔ (∃ y ∈ pre ++ x :: post, y.id = i) ∧ i ≠ x.id := by
  have hx := id_not_mem_around hn
  constructor
  · rintro ⟨y, hy, rfl⟩
    refine ⟨⟨y, ?_, rfl⟩, fun e => hx (List.mem_map.mpr ⟨y, hy, e⟩)⟩
    rcases List.mem_append.mp hy with hy | hy
    · exact List.mem_append_left _ hy
    · exact List.mem_append_right _ (List.mem_cons_of_mem _ hy)
  · rintro ⟨⟨y, hy, rfl⟩, hne⟩
    refine ⟨y, ?_, rfl⟩
    rcases List.mem_append.mp hy with hy | hy
    · exact List.mem_append_left _ hy
    · rcases List.mem_cons.mp hy with rfl | hy
      · exact absurd rfl hne
      · exact List.mem_append_right _ hy

/-- An arming that succeeds hands out the next id, and the books gain a pending action. -/
theorem Books.arm (h : Books k es) (hk' : k'.Inv) {c : Nat} {kind : Kind} {d : Int}
    (hq : k'.queue = (k.queue.arm c kind d k.now).2)
    (hs : k'.stats.scheduledOnce + k'.stats.scheduledEvery =
      k.stats.scheduledOnce + k.stats.scheduledEvery + 1)
    (hc : k'.stats.canceled = k.stats.canceled) (ha : e.armed = some (k.queue.lastId + 1))
    (hx : e.canceled = none) (hsp : e.spent = none) : Books k' (es ++ [e]) := by
  rw [Queue.arm_eq] at hq
  -- the new id was handed out by no earlier event
  have hfresh : ∀ l : List Nat, (∀ id ∈ l, id ∈ es.filterMap Port.Event.armed) →
      k.queue.lastId + 1 ∉ l := fun l hl hmem => by
    have := (h.armed _).mp (hl _ hmem)
    omega
  refine ⟨hk', fun id => ?_, fun id => ?_, fun id => ?_, fun id => ?_, ?_⟩
  · simp only [List.filterMap_append, List.filterMap_cons, ha, hq, List.filterMap_nil,
      List.mem_append, h.armed id, List.mem_singleton]
    omega
  · simp only [List.filterMap_append, List.filterMap_cons, hx, ha, List.filterMap_nil,
      List.append_nil, List.mem_append, List.mem_singleton]
    exact fun hid => .inl (h.canceled id hid)
  · simp only [List.filterMap_append, List.filterMap_cons, hsp, ha, List.filterMap_nil,
      List.append_nil, List.mem_append, List.mem_singleton]
    exact fun hid => .inl (h.spent id hid)
  · simp only [Port.Pending, List.filterMap_append, List.filterMap_cons, ha, hx, hsp,
      List.filterMap_nil, List.append_nil, List.mem_append, List.mem_singleton, hq,
      Queue.mem_insert, exists_eq_or_imp, Queue.armed]
    rw [h.pending id]
    by_cases hid : id = k.queue.lastId + 1
    · subst hid
      exact ⟨fun _ => ⟨.inr rfl, hfresh _ h.canceled, hfresh _ h.spent⟩, fun _ => .inl rfl⟩
    · simp only [Port.Pending, Ne.symm hid, hid, false_or, or_false]
  · have := h.count
    simp only [Clock.pending, Queue.size, hq, Queue.length_insert, hc, List.filterMap_append,
      List.filterMap_cons, hsp, List.filterMap_nil, List.append_nil] at this ⊢
    omega

/-- A cancel that succeeds takes exactly its action out of the books, and counts it. -/
theorem Books.cancel (h : Books k es) (hk' : k'.Inv) {pre post : List Action} {x : Action}
    (he : k.queue.entries = pre ++ x :: post)
    (hq : k'.queue = { k.queue with entries := pre ++ post })
    (hs : k'.stats.scheduledOnce + k'.stats.scheduledEvery =
      k.stats.scheduledOnce + k.stats.scheduledEvery)
    (hc : k'.stats.canceled = k.stats.canceled + 1) (ha : e.armed = none)
    (hx : e.canceled = some x.id) (hsp : e.spent = none) : Books k' (es ++ [e]) := by
  have hn := h.inv.wf.nodup
  rw [he] at hn
  have hpend := (h.pending x.id).mp ⟨x, by simp [he], rfl⟩
  refine ⟨hk', fun i => ?_, fun i => ?_, fun i => ?_, fun i => ?_, ?_⟩
  · simpa [ha, hq] using h.armed i
  · simp only [List.filterMap_append, List.filterMap_cons, ha, hx, List.filterMap_nil,
      List.append_nil, List.mem_append, List.mem_singleton]
    rintro (hi | rfl)
    · exact h.canceled i hi
    · exact hpend.1
  · simpa [ha, hsp] using h.spent i
  · rw [hq, ids_erase hn i, ← he, h.pending i]
    simp only [Port.Pending, List.filterMap_append, List.filterMap_cons, ha, hx, hsp,
      List.filterMap_nil, List.append_nil, List.mem_append, List.mem_singleton, not_or]
    tauto
  · have := h.count
    simp only [Clock.pending, Queue.size, hq, he, hc, hs, List.filterMap_append,
      List.filterMap_cons, hsp, List.filterMap_nil, List.append_nil, List.length_append,
      List.length_cons] at this ⊢
    omega

/-- Taking a firing spends a one-shot action and keeps a repeating one in the books. -/
theorem Books.take (h : Books k es) {t : Time} {f : Firing} (ht : k.takeDue t = some (f, k'))
    (ha : e.armed = none) (hx : e.canceled = none)
    (hsp : e.spent = if f.kind = .once then some f.action else none) : Books k' (es ++ [e]) := by
  obtain ⟨a, rest, he, -, rfl, hq, -, -⟩ := takeDue_cases ht
  obtain ⟨q, -, hk'⟩ := takeDue_eq_some.mp ht
  have hinv := take_inv ht h.inv
  have hs : k'.stats = { k.stats with fired := k.stats.fired + 1 } := by rw [hk']
  have hn := h.inv.wf.nodup
  rw [he] at hn
  unfold Queue.afterFiring at hq
  cases hk : a.kind with
  | once =>
    rw [hk] at hq
    simp only [Action.firing_kind, hk, if_true, Action.firing_action] at hsp
    have hpend := (h.pending a.id).mp ⟨a, by simp [he], rfl⟩
    refine ⟨hinv, fun i => ?_, fun i => ?_, fun i => ?_, fun i => ?_, ?_⟩
    · simpa [ha, hq] using h.armed i
    · simpa [ha, hx] using h.canceled i
    · simp only [List.filterMap_append, List.filterMap_cons, ha, hsp, List.filterMap_nil,
        List.append_nil, List.mem_append, List.mem_singleton]
      rintro (hi | rfl)
      · exact h.spent i hi
      · exact hpend.1
    · have hids := @ids_erase [] _ _ hn i
      rw [List.nil_append, List.nil_append, ← he, h.pending i] at hids
      rw [hq, hids]
      simp only [Port.Pending, List.filterMap_append, List.filterMap_cons, ha, hx, hsp,
        List.filterMap_nil, List.append_nil, List.mem_append, List.mem_singleton, not_or]
      tauto
    · have := h.count
      simp only [Clock.pending, Queue.size, hq, he, hs, List.filterMap_append,
        List.filterMap_cons, hsp, List.filterMap_nil, List.length_append, List.length_cons,
        List.length_nil] at this ⊢
      omega
  | every =>
    rw [hk] at hq
    simp only [Action.firing_kind, hk, reduceCtorEq, if_false] at hsp
    refine h.quiet hinv (fun i => ?_) (by rw [hq]) ?_ (by rw [hs]) (by rw [hs]) ha hx hsp
    · simp [hq, he]
    · simp [Clock.pending, Queue.size, hq, he]

theorem Books.finish (h : Books k es) {t : Time} (hn : k.takeDue t = none) :
    Books (k.finishAdvance t) es :=
  ⟨finish_inv hn h.inv, h.armed, h.canceled, h.spent, h.pending, h.count⟩

/-- An arming call keeps the books: a refused one changes nothing, and one that succeeds adds the
action it armed. -/
theorem Books.armCall (h : Books k es) (hk' : k'.Inv) {c : Port.Call} {kind : Kind} {d : Int}
    {cont : Option Nat} {r : Port.Reply} (hr : Port.armReply k (k.schedule cont kind d) = (r, k'))
    (ha : ∀ x, (Port.Event.call c (.armed x)).armed =
      match x with
      | .ok id => some id
      | .error _ => none)
    (hx : ∀ r, (Port.Event.call c r).canceled = none) : Books k' (es ++ [.call c r]) := by
  rcases Port.armReply_cases hr with ⟨rfl, e', -, rfl⟩ | ⟨id, hs, rfl⟩
  · exact h.keep hk' rfl rfl rfl (ha _) (hx _) rfl
  · obtain ⟨c', -, -, hq, -, -, -⟩ := schedule_eq_ok hs
    obtain ⟨hsc, hcc⟩ := schedule_stats hs
    rw [Queue.arm_eq] at hq
    obtain ⟨rfl, hq⟩ := Prod.mk.inj hq
    exact h.arm hk' (show k'.queue = (k.queue.arm c' kind d k.now).2 by rw [Queue.arm_eq, ← hq])
      hsc hcc (ha _) (hx _) rfl

/-- Every call that runs no handler keeps the books. -/
theorem Books.call (h : Books k es) {c : Port.Call} {r : Port.Reply}
    (hc : port.call k c = some (r, k')) : Books k' (es ++ [.call c r]) := by
  have hk' := call_inv hc h.inv
  cases c with
  | scheduleOnce cont d =>
    simp only [Port.call, port, scheduleOnce, Option.some.injEq] at hc
    exact h.armCall hk' hc (fun x => by cases x <;> rfl) (fun _ => rfl)
  | scheduleEvery cont d =>
    simp only [Port.call, port, scheduleEvery, Option.some.injEq] at hc
    exact h.armCall hk' hc (fun x => by cases x <;> rfl) (fun _ => rfl)
  | cancel a =>
    simp only [Port.call, port, Option.some.injEq, Prod.mk.injEq] at hc
    obtain ⟨rfl, rfl⟩ := hc
    by_cases hp : ∃ id, a = some id ∧ ∃ x ∈ k.queue.entries, x.id = id
    · obtain ⟨id, rfl, x, hxm, rfl⟩ := hp
      obtain ⟨pre, post, he, hf⟩ := filter_id_of_mem h.inv.wf.nodup hxm
      rw [cancel_of_pending ⟨x, hxm, rfl⟩] at hk' ⊢
      exact h.cancel hk' he (by rw [← hf]) rfl rfl rfl rfl rfl
    · have hn : ∀ id, a = some id → ∀ x ∈ k.queue.entries, x.id ≠ id :=
        fun id ha x hx hid => hp ⟨id, ha, x, hx, hid⟩
      rw [cancel_of_not_pending hn] at hk' ⊢
      exact h.keep hk' rfl rfl rfl rfl (by cases a <;> rfl) rfl
  | destroy x =>
    simp only [Port.call, port, Option.some.injEq, Prod.mk.injEq] at hc
    obtain ⟨rfl, rfl⟩ := hc
    have hst := destroyContinuation_stats_cases k x
    refine h.keep hk' (destroyContinuation_queue k x) ?_ ?_ rfl rfl rfl <;>
      rcases hst with hst | hst <;> rw [hst]
  | advance d | advanceTo t =>
    by_cases hb : k.beginAdvance.isSome = true
    · simp [Port.call, port, hb] at hc
    · simp only [Port.call, port, hb, Bool.false_eq_true, if_false, Option.some.injEq,
        Prod.mk.injEq] at hc
      obtain ⟨rfl, rfl⟩ := hc
      exact h.keep hk' rfl rfl rfl rfl rfl rfl
  | newContinuation | now | isDestroyed _ | pending | nextDue | stats =>
    simp only [Port.call, port, Option.some.injEq, Prod.mk.injEq] at hc
    obtain ⟨rfl, rfl⟩ := hc
    exact h.keep hk' rfl rfl rfl rfl rfl rfl

/-- The start of an advance shows an advance call, and keeps the books. -/
theorem Books.begin (h : Books k es) {c : Port.Call} {r : Port.Reply} {t : Time}
    (htg : port.target k c = some t) (hb : k.beginAdvance = some k') :
    Books k' (es ++ [.call c r]) := by
  obtain ⟨-, rfl⟩ := beginAdvance_eq_some.mp hb
  cases c <;> simp only [Port.target, reduceCtorEq] at htg <;>
    exact h.keep ⟨h.inv.wf, h.inv.due_ge, h.inv.period_pos⟩ rfl rfl rfl rfl rfl rfl

/-- Every event a clock shows keeps the books. -/
theorem Books.shows (h : Books k es) (hs : Port.Shows port k e k') : Books k' (es ++ [e]) := by
  cases hs with
  | call hc => exact h.call hc
  | begin htg hb => exact h.begin htg hb
  | take ht => exact h.take ht rfl rfl rfl

end Books

/-- A run from a state whose books are kept keeps them, its events added. -/
theorem trace_books {k k' : Clock} {es : List Port.Event} (h : port.Trace k es k') :
    ∀ {pre : List Port.Event}, Books k pre → Books k' (pre ++ es) := by
  induction h with
  | nil =>
    intro pre hb
    simpa using hb
  | shows hs _ ih =>
    intro pre hb
    simpa using ih (hb.shows hs)
  | finish hn _ ih =>
    intro pre hb
    exact ih (hb.finish hn)

end Clock

end HostDispatch
