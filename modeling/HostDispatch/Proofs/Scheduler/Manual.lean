import HostDispatch.Scheduler.Manual
import HostDispatch.Proofs.Scheduler.HeapQueue
import HostDispatch.Proofs.Scheduler.Reference
import HostDispatch.Proofs.Scheduler.Cancel

/-!
# The clock over the heap

`Manual` is the simulated clock with its pending actions in the timer queue's heap. It stands for
the clock over the sorted list (`Manual.Represents`) from the start and after every step, and the
two answer every call alike (`Manual.lockstep`). Ports that answer alike compose, so the clock over
the heap refines the reference scheduler through the clock over the list
(`Manual.manual_refines_reference`), and a cancel on the heap is exact
(`Manual.cancel_is_exact`): whether an action is pending is read alike off a run's events, off its
record's state, off its record's position and off the heap, and a cancel that succeeds takes it
off the heap at that position, marks it canceled and leaves the rest in their firing order.
-/

namespace HostDispatch

namespace Port

namespace Lockstep

variable {S T U : Type} {P : Port S} {Q : Port T} {W : Port U} {R : S → T → Prop}
  {R' : T → U → Prop}

theorem rel_comp {α β γ : Type} {r : α → β → Prop} {r' : β → γ → Prop} {a : Option α}
    {b : Option β} {c : Option γ} (h : Option.Rel r a b) (h' : Option.Rel r' b c) :
    Option.Rel (fun x z => ∃ y, r x y ∧ r' y z) a c := by
  cases h with
  | none => rw [none_of_rel h']; exact .none
  | some hr =>
    obtain ⟨z, rfl, hr'⟩ := some_of_rel h'
    exact .some ⟨_, hr, hr'⟩

theorem rel_mono {α β : Type} {r r' : α → β → Prop} {a : Option α} {b : Option β}
    (h : Option.Rel r a b) (himp : ∀ x y, r x y → r' x y) : Option.Rel r' a b := by
  cases h with
  | none => exact .none
  | some hr => exact .some (himp _ _ hr)

/-- Answering alike composes: through a port in the middle, the outer two answer alike. -/
theorem trans (h : Lockstep P Q R) (h' : Lockstep Q W R') :
    Lockstep P W (fun s u => ∃ t, R s t ∧ R' t u) where
  now _ _ := fun ⟨t, hR, hR'⟩ => (h'.now t _ hR').trans (h.now _ t hR)
  isDestroyed _ _ c := fun ⟨t, hR, hR'⟩ => (h'.isDestroyed t _ c hR').trans (h.isDestroyed _ t c hR)
  call _ _ c := fun ⟨t, hR, hR'⟩ =>
    rel_mono (rel_comp (h.call _ t c hR) (h'.call t _ c hR'))
      fun _ _ ⟨y, ⟨e, r⟩, ⟨e', r'⟩⟩ => ⟨e.trans e', y.2, r, r'⟩
  begin _ _ := fun ⟨t, hR, hR'⟩ => rel_comp (h.begin _ t hR) (h'.begin t _ hR')
  take _ _ u := fun ⟨t, hR, hR'⟩ =>
    rel_mono (rel_comp (h.take _ t u hR) (h'.take t _ u hR'))
      fun _ _ ⟨y, ⟨e, r⟩, ⟨e', r'⟩⟩ => ⟨e.trans e', y.2, r, r'⟩
  finish _ _ u := fun ⟨t, hR, hR'⟩ => ⟨_, h.finish _ t u hR, h'.finish t _ u hR'⟩

/-- Each event one port shows from related states, the other shows too. -/
theorem shows (h : Lockstep P Q R) {s s' : S} {t : T} {e : Event} (hR : R s t)
    (hs : Shows P s e s') : ∃ t', Shows Q t e t' ∧ R s' t' := by
  cases hs with
  | call hc =>
    obtain ⟨t', hc', hR'⟩ := h.call_some hR hc
    exact ⟨t', .call hc', hR'⟩
  | begin htg hb =>
    obtain ⟨t', hb', hR'⟩ := h.begin_some hR hb
    exact ⟨t', .begin (by rw [h.target_eq hR]; exact htg) hb', hR'⟩
  | take ht =>
    obtain ⟨t', ht', hR'⟩ := h.take_some hR ht
    refine ⟨t', ?_, hR'⟩
    rw [← h.now _ _ hR', ← h.isDestroyed _ _ _ hR']
    exact .take ht'

/-- From related states, every run one port shows event by event, the other shows too. -/
theorem trace (h : Lockstep P Q R) {s s' : S} {t : T} {es : List Event} (hR : R s t)
    (hs : Trace P s es s') : ∃ t', Trace Q t es t' ∧ R s' t' := by
  induction hs generalizing t with
  | nil => exact ⟨t, .nil t, hR⟩
  | shows hs _ ih =>
    obtain ⟨t₁, hs', hR₁⟩ := h.shows hR hs
    obtain ⟨t', hrest, hR'⟩ := ih hR₁
    exact ⟨t', .shows hs' hrest, hR'⟩
  | finish hn _ ih =>
    obtain ⟨t', hrest, hR'⟩ := ih (h.finish _ t _ hR)
    exact ⟨t', .finish (h.take_none hR hn) hrest, hR'⟩

end Lockstep

end Port

namespace Manual

/-- The clock over the heap as a port. -/
def port : Port Manual where
  now := Manual.now
  newContinuation := Manual.newContinuation
  scheduleOnce := Manual.scheduleOnce
  scheduleEvery := Manual.scheduleEvery
  cancel m a := ((m.cancel a).1.map fun _ => (), (m.cancel a).2)
  destroyContinuation := Manual.destroyContinuation
  isDestroyed := Manual.isDestroyed
  pending := Manual.pending
  nextDue := Manual.nextDue
  stats := Manual.stats
  beginAdvance := Manual.beginAdvance
  takeDue := Manual.takeDue
  finishAdvance := Manual.finishAdvance

/-- The clock over the heap `m` stands for the clock over the list `k`: the heap holds the list's
actions and skips no missed firings, and the two show the same time, counters, destroyed flags and
advance. -/
structure Represents (m : Manual) (k : Clock) : Prop where
  queue : m.queue.Represents k.queue
  skipMissed : m.queue.skipMissed = false
  now : m.now = k.now
  stats : m.stats = k.stats
  destroyed : m.destroyed = k.destroyed
  advancing : m.advancing = k.advancing

theorem represents_start (t : Time) : (start t).Represents (Clock.start t) :=
  ⟨TimerQueue.represents_empty false, rfl, rfl, rfl, rfl, rfl⟩

namespace Represents

variable {m : Manual} {k : Clock}

theorem isDestroyed (h : m.Represents k) (c : Nat) : m.isDestroyed c = k.isDestroyed c := by
  simp [Manual.isDestroyed, Clock.isDestroyed, h.destroyed]

theorem newContinuation (h : m.Represents k) :
    m.newContinuation.1 = k.newContinuation.1 ∧
      m.newContinuation.2.Represents k.newContinuation.2 := by
  obtain ⟨hq, hs, hn, hst, hd, ha⟩ := h
  exact ⟨by simp [Manual.newContinuation, Clock.newContinuation, hd], hq, hs, hn,
    by simp [Manual.newContinuation, Clock.newContinuation, hst], by
      simp [Manual.newContinuation, Clock.newContinuation, hd], ha⟩

theorem schedule (h : m.Represents k) (cont : Option Nat) (kind : Kind) (d : Int) :
    (Port.armReply m (m.schedule cont kind d)).1 = (Port.armReply k (k.schedule cont kind d)).1 ∧
      (Port.armReply m (m.schedule cont kind d)).2.Represents
        (Port.armReply k (k.schedule cont kind d)).2 := by
  cases cont with
  | none => exact ⟨rfl, h⟩
  | some c =>
    by_cases hd : k.isDestroyed c
    · have hd' : m.isDestroyed c = true := (h.isDestroyed c).trans hd
      simp only [Manual.schedule, Clock.schedule, hd, hd', if_true, Port.armReply]
      exact ⟨trivial, h⟩
    · have hd' : m.isDestroyed c = false := (h.isDestroyed c).trans (by simpa using hd)
      obtain ⟨hid, harm⟩ := h.queue.arm c kind d k.now
      simp only [Manual.schedule, Clock.schedule, hd, hd', Bool.false_eq_true, if_false,
        Port.armReply, h.now]
      refine ⟨by rw [hid], harm, ?_, rfl, by cases kind <;> simp [h.stats], h.destroyed,
        h.advancing⟩
      rw [h.queue.inv.arm_skipMissed, h.skipMissed]

theorem cancel (h : m.Represents k) (a : Option Nat) :
    (m.cancel a).1.map (fun _ => ()) = (k.cancel a).1.map (fun _ => ()) ∧
      (m.cancel a).2.Represents (k.cancel a).2 := by
  have hrel := h.queue.cancel a
  have hsk : ∀ q', m.queue.cancel a = some q' → q'.skipMissed = false :=
    fun _ hc => (h.queue.inv.cancel_skipMissed hc).trans h.skipMissed
  unfold Manual.cancel Clock.cancel
  generalize m.queue.cancel a = x at hrel hsk
  generalize a.bind k.queue.cancel = y at hrel
  cases hrel with
  | none => exact ⟨rfl, h.queue, h.skipMissed, h.now, by simp [h.stats], h.destroyed, h.advancing⟩
  | some hr =>
    exact ⟨rfl, hr, hsk _ rfl, h.now, by simp [h.stats], h.destroyed, h.advancing⟩

theorem destroyContinuation (h : m.Represents k) (c : Option Nat) :
    (m.destroyContinuation c).Represents (k.destroyContinuation c) := by
  cases c with
  | none => exact h
  | some c =>
    have hc : (m.isDestroyed c || decide (c = 0) || decide (c > m.destroyed.size)) =
        (k.isDestroyed c || decide (c = 0) || decide (c > k.destroyed.size)) := by
      rw [h.isDestroyed, h.destroyed]
    unfold Manual.destroyContinuation Clock.destroyContinuation
    dsimp only
    rw [hc]
    split_ifs
    · exact h
    · exact ⟨h.queue, h.skipMissed, h.now, by simp [h.stats], by simp [h.destroyed], h.advancing⟩

theorem beginAdvance (h : m.Represents k) : Option.Rel Represents m.beginAdvance k.beginAdvance := by
  unfold Manual.beginAdvance Clock.beginAdvance
  rw [h.advancing]
  split
  · exact .none
  · exact .some ⟨h.queue, h.skipMissed, h.now, h.stats, h.destroyed, rfl⟩

theorem takeDue (h : m.Represents k) (t : Time) :
    Option.Rel (fun x y => x.1 = y.1 ∧ x.2.Represents y.2) (m.takeDue t) (k.takeDue t) := by
  have hrel := h.queue.popDue t
  rw [h.skipMissed] at hrel
  have hsk : ∀ f q', m.queue.popDue t = some (f, q') → q'.skipMissed = false :=
    fun _ _ hp => (h.queue.inv.popDue_skipMissed hp).trans h.skipMissed
  unfold Manual.takeDue Clock.takeDue
  generalize m.queue.popDue t = x at hrel hsk
  generalize k.queue.popDue t false = y at hrel
  cases hrel with
  | none => exact .none
  | @some a b hab =>
    obtain ⟨f, q'⟩ := a
    obtain ⟨f', Q'⟩ := b
    obtain ⟨rfl, hr⟩ := hab
    exact .some ⟨rfl, hr, hsk _ _ rfl, by rw [h.now], by simp [h.stats], h.destroyed, h.advancing⟩

theorem finishAdvance (h : m.Represents k) (t : Time) :
    (m.finishAdvance t).Represents (k.finishAdvance t) :=
  ⟨h.queue, h.skipMissed, by simp [Manual.finishAdvance, h.now], h.stats, h.destroyed, rfl⟩

end Represents

/-- The clock over the heap and the clock over the list, started alike, answer every call alike
and keep standing for each other. -/
theorem lockstep : Port.Lockstep port Clock.port Represents where
  now _ _ h := h.now.symm
  isDestroyed _ _ c h := (h.isDestroyed c).symm
  call m k c h := by
    cases c with
    | now => exact .some ⟨congrArg Port.Reply.time h.now, h⟩
    | newContinuation =>
      obtain ⟨h1, h2⟩ := h.newContinuation
      exact .some ⟨congrArg Port.Reply.cont h1, h2⟩
    | scheduleOnce c d =>
      obtain ⟨h1, h2⟩ := h.schedule c .once (max d 0)
      exact .some ⟨h1, h2⟩
    | scheduleEvery c d =>
      obtain ⟨h1, h2⟩ := h.schedule c .every (max d minPeriod)
      exact .some ⟨h1, h2⟩
    | cancel a =>
      obtain ⟨h1, h2⟩ := h.cancel a
      exact .some ⟨congrArg Port.Reply.canceled h1, h2⟩
    | destroy c => exact .some ⟨rfl, h.destroyContinuation c⟩
    | isDestroyed c => exact .some ⟨congrArg Port.Reply.flag (h.isDestroyed c), h⟩
    | pending => exact .some ⟨congrArg Port.Reply.count h.queue.size_eq, h⟩
    | nextDue => exact .some ⟨congrArg Port.Reply.due h.queue.peek_eq, h⟩
    | stats => exact .some ⟨congrArg Port.Reply.stats h.stats, h⟩
    | advance _ | advanceTo _ =>
      have hb : (port.beginAdvance m).isSome = (Clock.port.beginAdvance k).isSome := by
        show m.beginAdvance.isSome = k.beginAdvance.isSome
        unfold Manual.beginAdvance Clock.beginAdvance
        rw [h.advancing]
        split <;> rfl
      simp only [Port.call, hb]
      split
      · exact .none
      · exact .some ⟨rfl, h⟩
  begin _ _ h := h.beginAdvance
  take _ _ t h := h.takeDue t
  finish _ _ t h := h.finishAdvance t

/-! ## Refining the reference -/

/-- A clock over the heap and a reference state show the same: the heap keeps its representation
invariant and holds the reference's pending actions in some order, both have handed out the same
ids, and they show the same time, counters, destroyed flags and advance. -/
structure Matches (m : Manual) (r : Clock) : Prop where
  inv : m.queue.Inv
  pending : m.queue.actions.Perm r.queue.entries
  lastId : r.queue.lastId = m.queue.lastId
  now : r.now = m.now
  stats : r.stats = m.stats
  destroyed : r.destroyed = m.destroyed
  advancing : r.advancing = m.advancing

theorem Matches.of_represents {m : Manual} {k r : Clock} (hm : m.Represents k)
    (hr : Reference.Agree k r) : m.Matches r where
  inv := hm.queue.inv
  pending := hm.queue.perm.symm.trans hr.perm
  lastId := hr.lastId.trans hm.queue.lastId
  now := hr.now.trans hm.now.symm
  stats := hr.stats.trans hm.stats.symm
  destroyed := hr.destroyed.trans hm.destroyed.symm
  advancing := hr.advancing.trans hm.advancing.symm

/-- From the start, the clock over the heap and the reference have the same histories: every
sequence of calls with its answers and deliveries that one can produce, the other can too, and
they end showing the same. -/
theorem manual_refines_reference (t₀ : Time) (es : List Port.Entry) :
    (∀ m, port.History (start t₀) es m →
      ∃ r, Reference.port.History (Clock.start t₀) es r ∧ m.Matches r) ∧
    (∀ r, Reference.port.History (Clock.start t₀) es r →
      ∃ m, port.History (start t₀) es m ∧ m.Matches r) := by
  have hl := lockstep.trans Reference.lockstep
  have hs : ∃ k, (start t₀).Represents k ∧ Reference.Agree k (Clock.start t₀) :=
    ⟨_, represents_start t₀, Reference.agree_start t₀⟩
  refine ⟨fun m hm => ?_, fun r hr => ?_⟩
  · obtain ⟨r, hr, k, hmk, hkr⟩ := hl.history hs hm
    exact ⟨r, hr, Matches.of_represents hmk hkr⟩
  · obtain ⟨m, hm, k, hmk, hkr⟩ := hl.symm.history hs hr
    exact ⟨m, hm, Matches.of_represents hmk hkr⟩

/-! ## Canceling on the heap -/

/-- A cancel of an action in the heap succeeds, takes it off the heap, marks its record canceled
with no position, and counts one cancel. -/
theorem cancel_of_mem {m : Manual} {k : Clock} (h : m.Represents k) {id : Nat}
    (hid : id ∈ m.queue.heap) :
    ∃ q', m.cancel (some id) =
        (.ok { m with queue := q', stats := { m.stats with canceled := m.stats.canceled + 1 } },
          { m with queue := q', stats := { m.stats with canceled := m.stats.canceled + 1 } }) ∧
      q'.Represents { k.queue with entries := k.queue.entries.filter (·.id != id) } ∧
      (q'.slots id).state = .canceled ∧ (q'.slots id).index = -1 := by
  obtain ⟨i, hi, rfl, hc⟩ := h.queue.inv.cancel_some hid
  have hQ := Queue.cancel_eq_some.2 ⟨(h.queue.mem_ids _).2 hid, rfl⟩
  have hrel := h.queue.cancel (some (m.queue.idAt i))
  rw [hc, Option.bind_some, hQ] at hrel
  obtain ⟨q'', hq'', hr⟩ := Port.Lockstep.some_of_rel (Port.Lockstep.rel_swap (fun _ _ h => h) hrel)
  cases Option.some.inj hq''
  refine ⟨_, by simp only [Manual.cancel, hc], hr, by simp, ?_⟩
  rw [TimerQueue.modify_slots, if_pos rfl]
  exact (TimerQueue.removes_remove h.queue.inv.placed h.queue.inv.ordered hi).index

/-- A cancel of anything not in the heap answers that it is not pending, counts one misuse and
changes nothing else. -/
theorem cancel_of_not_mem {m : Manual} {k : Clock} (h : m.Represents k) {a : Option Nat}
    (ha : ∀ id, a = some id → id ∉ m.queue.heap) :
    m.cancel a = (.error (.sentinel .actionNotPending),
      { m with stats := { m.stats with cancelMisuse := m.stats.cancelMisuse + 1 } }) := by
  cases a with
  | none => rfl
  | some id =>
    simp only [Manual.cancel, (h.queue.cancel_none (ha id rfl)).1]

/-- A cancel of an action in the heap takes it out from between the others, which it leaves in
order, and counts one cancel. -/
theorem cancel_between {m : Manual} {k : Clock} (h : m.Represents k)
    (hnd : (k.queue.entries.map (·.id)).Nodup)
    {id : Nat} (hid : id ∈ m.queue.heap) :
    ∃ pre x post, x.id = id ∧
      m.queue.Represents { entries := pre ++ x :: post, lastId := m.queue.lastId } ∧
      (m.cancel (some id)).1 = .ok (m.cancel (some id)).2 ∧
      (m.cancel (some id)).2.queue.Represents { entries := pre ++ post, lastId := m.queue.lastId } ∧
      ((m.cancel (some id)).2.queue.slots id).state = .canceled ∧
      ((m.cancel (some id)).2.queue.slots id).index = -1 ∧
      (m.cancel (some id)).2 = { m with queue := (m.cancel (some id)).2.queue,
                                        stats := { m.stats with canceled := m.stats.canceled + 1 } } := by
  obtain ⟨q', hc, hr, hst, hidx⟩ := cancel_of_mem h hid
  obtain ⟨x, hx, hxid⟩ := (h.queue.mem_ids id).2 hid
  obtain ⟨pre, post, he, hf⟩ := Clock.filter_id_of_mem hnd hx
  have hl : k.queue.lastId = m.queue.lastId := h.queue.lastId
  have hk : k.queue = { entries := pre ++ x :: post, lastId := m.queue.lastId } := by
    rw [← he, ← hl]
  rw [hxid] at hf
  rw [hf] at hr
  have hr' : q'.Represents { entries := pre ++ post, lastId := m.queue.lastId } := by
    rw [← hl]
    exact hr
  rw [hc]
  exact ⟨pre, x, post, hxid, hk ▸ h.queue, rfl, hr', hst, hidx, rfl⟩

/-- A cancel on the heap is exact in every state a run reaches: an action is pending exactly when its
record and the heap say so, a cancel of it takes it off the heap keeping the others' order, and any
other cancel counts a misuse and changes nothing else. -/
theorem cancel_is_exact (t₀ : Time) {es : List Port.Event} {m : Manual}
    (h : port.Trace (start t₀) es m) (a : Option Nat) :
    (∀ id, (Port.Pending es id ↔ (m.queue.slots id).state = .pending) ∧
      (Port.Pending es id ↔ 0 ≤ (m.queue.slots id).index) ∧
      (Port.Pending es id ↔ id ∈ m.queue.heap)) ∧
    (∀ id, a = some id → Port.Pending es id →
      ∃ pre x post, x.id = id ∧
        m.queue.Represents { entries := pre ++ x :: post, lastId := m.queue.lastId } ∧
        (m.cancel a).1 = .ok (m.cancel a).2 ∧
        (m.cancel a).2.queue.Represents { entries := pre ++ post, lastId := m.queue.lastId } ∧
        ((m.cancel a).2.queue.slots id).state = .canceled ∧
        ((m.cancel a).2.queue.slots id).index = -1 ∧
        (m.cancel a).2 = { m with queue := (m.cancel a).2.queue,
                                  stats := { m.stats with canceled := m.stats.canceled + 1 } }) ∧
    ((∀ id, a = some id → ¬ Port.Pending es id) →
      (m.cancel a).1 = .error (.sentinel .actionNotPending) ∧
      (m.cancel a).2 =
        { m with stats := { m.stats with cancelMisuse := m.stats.cancelMisuse + 1 } }) ∧
    m.pending + m.stats.canceled + (es.filterMap Port.Event.spent).length =
      m.stats.scheduledOnce + m.stats.scheduledEvery := by
  obtain ⟨k, hk, hmk⟩ := lockstep.trace (represents_start t₀) h
  have hb : Clock.Books k es := by simpa using Clock.trace_books hk (Clock.books_start t₀)
  -- pendingness read off the events is membership in the list, hence in the heap
  have hpend : ∀ id, Port.Pending es id ↔ id ∈ m.queue.heap :=
    fun id => (hb.pending id).symm.trans (hmk.queue.mem_ids id)
  refine ⟨fun id => ?_, fun id ha hp => ?_, fun hn => ?_, ?_⟩
  · have hi := hmk.queue.inv.pending_iff id
    exact ⟨(hpend id).trans hi.1.symm, (hpend id).trans hi.2.symm, hpend id⟩
  · subst ha
    exact cancel_between hmk hb.inv.wf.nodup ((hpend id).1 hp)
  · rw [cancel_of_not_mem hmk fun id ha hid => hn id ha ((hpend id).2 hid)]
    exact ⟨rfl, rfl⟩
  · rw [Manual.pending, hmk.queue.size_eq, hmk.stats]
    exact hb.count

/-- A one-shot armed on a continuation just made: the run reaches a state where a cancel on the
heap is exact. -/
theorem canceling_an_armed_one_shot_on_the_heap_is_exact :
    let es : List Port.Event :=
      [.call .newContinuation (.cont 1), .call (.scheduleOnce (some 1) 5) (.armed (.ok 1))]
    ∃ m, port.Trace (start Time.epoch) es m ∧
      (∀ id, (Port.Pending es id ↔ (m.queue.slots id).state = .pending) ∧
        (Port.Pending es id ↔ 0 ≤ (m.queue.slots id).index) ∧
        (Port.Pending es id ↔ id ∈ m.queue.heap)) ∧
      (∀ id, some 1 = some id → Port.Pending es id →
        ∃ pre x post, x.id = id ∧
          m.queue.Represents { entries := pre ++ x :: post, lastId := m.queue.lastId } ∧
          (m.cancel (some 1)).1 = .ok (m.cancel (some 1)).2 ∧
          (m.cancel (some 1)).2.queue.Represents
            { entries := pre ++ post, lastId := m.queue.lastId } ∧
          ((m.cancel (some 1)).2.queue.slots id).state = .canceled ∧
          ((m.cancel (some 1)).2.queue.slots id).index = -1 ∧
          (m.cancel (some 1)).2 =
            { m with queue := (m.cancel (some 1)).2.queue,
                     stats := { m.stats with canceled := m.stats.canceled + 1 } }) ∧
      ((∀ id, some 1 = some id → ¬ Port.Pending es id) →
        (m.cancel (some 1)).1 = .error (.sentinel .actionNotPending) ∧
        (m.cancel (some 1)).2 =
          { m with stats := { m.stats with cancelMisuse := m.stats.cancelMisuse + 1 } }) ∧
      m.pending + m.stats.canceled + (es.filterMap Port.Event.spent).length =
        m.stats.scheduledOnce + m.stats.scheduledEvery :=
  Exists.imp (fun _ hm => ⟨hm, cancel_is_exact Time.epoch hm (some 1)⟩)
    ⟨_, .shows (.call rfl) (.shows (.call rfl) (.nil _))⟩

end Manual

end HostDispatch
