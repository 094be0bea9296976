import HostDispatch.Proofs.Scheduler.Invariant
import HostDispatch.Proofs.Scheduler.Pending

/-!
# A destroyed continuation stays silent

Destroying a continuation only marks it. Its pending actions stay in the queue, keep firing when
they fall due and count as fired, but from then on no firing runs its handler, and arming on it is
refused as closed and leaves the clock as it was. Each continuation counts once among the
destroyed, however often it is destroyed.

To speak of "from then on" across handlers, a history is read as the list of `Port.Event`s a
client sees, in order: each call with its answer and each firing taken, with the time it was taken
at and whether it ran its handler. `Port.Runs` relates such a list to the states before and after
it and splits at any point of it (`Runs.split`, `Runs.of_mem`), so that what one step makes true
and every later step keeps can be read off every later event.

Main statement: `Clock.destroyed_continuation_stays_silent`. The facts it is built from are
`Clock.move_keeps_destroyed` (a mark is never undone), `Clock.fires_takes_due` (an advance takes
every action due by its target, unless a handler cancels it) and `Clock.move_destroyed_counted`
(the count of destroyed continuations is the number of marks).
-/

namespace HostDispatch

namespace Port

open Relation

/-- Something a client sees happen: a call with its answer (for an advance, the answer it ends
with), or a firing taken from the queue, with the time it was taken at and whether it ran its
handler. -/
inductive Event where
  | call (c : Call) (r : Reply)
  | fired (f : Firing) (now : Time) (ran : Bool)

/-- The events of a handler's calls. -/
def callEvents (log : List (Call × Reply)) : List Event := log.map fun x => .call x.1 x.2

/-- The events of one delivery: the firing, then the calls its handler made. -/
def Delivery.events (d : Delivery) : List Event :=
  .fired d.firing d.now d.handler.isSome :: callEvents (d.handler.getD [])

/-- The events of an entry of a history: the call, then the firings it delivered. -/
def Entry.events (e : Entry) : List Event :=
  .call e.call e.reply :: e.deliveries.flatMap Delivery.events

/-- The events of a history, in order. -/
def events (es : List Entry) : List Event := es.flatMap Entry.events

variable {S : Type} (P : Port S)

/-- One step of a port that shows as an event: a call that runs no handler, the start of an
advance, or a firing taken, which runs its handler when its continuation is live. -/
inductive Shows : S → Event → S → Prop
  | call {s s' : S} {c : Call} {r : Reply} : P.call s c = some (r, s') → Shows s (.call c r) s'
  | begin {s s' : S} {c : Call} {r : Reply} {t : Time} :
      P.target s c = some t → P.beginAdvance s = some s' → Shows s (.call c r) s'
  | take {s s' : S} {t : Time} {f : Firing} :
      P.takeDue s t = some (f, s') → Shows s (.fired f (P.now s') !(P.isDestroyed s' f.cont)) s'

/-- Events shown one after another, with any steps of the port before, between and after them. -/
inductive Runs : S → List Event → S → Prop
  | quiet {s s' : S} : ReflTransGen P.Move s s' → Runs s [] s'
  | step {s s₁ s₂ s₃ : S} {e : Event} {es : List Event} :
      ReflTransGen P.Move s s₁ → Shows P s₁ e s₂ → Runs s₂ es s₃ → Runs s (e :: es) s₃

variable {P}

theorem Shows.move {s s' : S} {e : Event} (h : Shows P s e s') : P.Move s s' := by
  cases h with
  | call hc => exact .call hc
  | begin _ hb => exact .begin hb
  | take ht => exact .take ht

theorem Shows.call_inv {s s' : S} {c : Call} {r : Reply} (h : Shows P s (.call c r) s') :
    P.call s c = some (r, s') ∨ ∃ t, P.target s c = some t ∧ P.beginAdvance s = some s' := by
  generalize he : Event.call c r = e at h
  cases h with
  | call hc =>
    cases he
    exact .inl hc
  | begin htg hb =>
    cases he
    exact .inr ⟨_, htg, hb⟩
  | take _ => cases he

/-- A call that is no advance shows as the port's answer to it. -/
theorem Shows.call_of_target {s s' : S} {c : Call} {r : Reply} (h : Shows P s (.call c r) s')
    (hc : P.target s c = none) : P.call s c = some (r, s') := by
  rcases h.call_inv with h | ⟨t, ht, -⟩
  · exact h
  · rw [hc] at ht
    cases ht

theorem Shows.fired_inv {s s' : S} {f : Firing} {now : Time} {ran : Bool}
    (h : Shows P s (.fired f now ran) s') :
    (∃ t, P.takeDue s t = some (f, s')) ∧ now = P.now s' ∧ ran = !(P.isDestroyed s' f.cont) := by
  generalize he : Event.fired f now ran = e at h
  cases h with
  | call _ => cases he
  | begin _ _ => cases he
  | take ht =>
    cases he
    exact ⟨⟨_, ht⟩, rfl, rfl⟩

namespace Runs

theorem moves {s s' : S} {es : List Event} (h : Runs P s es s') : ReflTransGen P.Move s s' := by
  induction h with
  | quiet hm => exact hm
  | step hm hs _ ih => exact hm.trans (ReflTransGen.head hs.move ih)

theorem head_moves {s s₁ s' : S} {es : List Event} (hm : ReflTransGen P.Move s s₁)
    (h : Runs P s₁ es s') : Runs P s es s' := by
  cases h with
  | quiet hq => exact .quiet (hm.trans hq)
  | step hm' hs hr => exact .step (hm.trans hm') hs hr

theorem append {s s₁ s' : S} {xs ys : List Event} (h₁ : Runs P s xs s₁) (h₂ : Runs P s₁ ys s') :
    Runs P s (xs ++ ys) s' := by
  induction h₁ with
  | quiet hm => exact head_moves hm h₂
  | step hm hs _ ih => exact .step hm hs (ih h₂)

/-- Events shown one after another split at any point, at a state between the two parts. -/
theorem split {s s' : S} {xs ys : List Event} (h : Runs P s (xs ++ ys) s') :
    ∃ m, Runs P s xs m ∧ Runs P m ys s' := by
  induction xs generalizing s with
  | nil => exact ⟨s, .quiet ReflTransGen.refl, h⟩
  | cons x xs ih =>
    cases h with
    | step hm hs hr =>
      obtain ⟨m, hxs, hys⟩ := ih hr
      exact ⟨m, .step hm hs hxs, hys⟩

/-- Every event shown is one step, reached from the start and leading to the end. -/
theorem of_mem {s s' : S} {es : List Event} {e : Event} (h : Runs P s es s') (he : e ∈ es) :
    ∃ s₁ s₂, ReflTransGen P.Move s s₁ ∧ Shows P s₁ e s₂ ∧ ReflTransGen P.Move s₂ s' := by
  obtain ⟨xs, ys, rfl⟩ := List.append_of_mem he
  obtain ⟨m, hxs, hys⟩ := split h
  cases hys with
  | step hm hs hr => exact ⟨_, _, hxs.moves.trans hm, hs, hr.moves⟩

end Runs

theorem Calls.runs {s s' : S} {log : List (Call × Reply)} (h : Calls P s log s') :
    Runs P s (callEvents log) s' := by
  induction h with
  | nil => exact .quiet ReflTransGen.refl
  | cons hc _ ih => exact .step ReflTransGen.refl (.call hc) ih

theorem Fires.runs {t : Time} {s s' : S} {ds : List Delivery} (h : Fires P t s ds s') :
    Runs P s (ds.flatMap Delivery.events) s' := by
  induction h with
  | finish hn => exact .quiet (ReflTransGen.single (.finish hn))
  | skip ht hd _ ih =>
    have hs := Shows.take (P := P) ht
    rw [hd] at hs
    exact .step ReflTransGen.refl hs ih
  | deliver ht hd hc _ ih =>
    have hs := Shows.take (P := P) ht
    rw [hd] at hs
    exact .step ReflTransGen.refl hs (hc.runs.append ih)

theorem Op.runs {s s' : S} {c : Call} {r : Reply} {ds : List Delivery}
    (h : Op P s c r ds s') : Runs P s (Entry.events ⟨c, r, ds⟩) s' := by
  cases h with
  | call hc => exact .step ReflTransGen.refl (.call hc) (.quiet ReflTransGen.refl)
  | advance htg hb hf => exact .step ReflTransGen.refl (.begin htg hb) hf.runs

/-- A history shows its events in order. -/
theorem History.runs {s s' : S} {es : List Entry} (h : History P s es s') :
    Runs P s (events es) s' := by
  induction h with
  | nil => exact .quiet ReflTransGen.refl
  | cons ho _ ih => exact ho.runs.append ih

end Port

namespace Clock

open Relation

/-! ## The continuations a clock keeps -/

/-- Two clocks with the same continuations, destroyed alike and counted alike. -/
def SameConts (k k' : Clock) : Prop :=
  k'.destroyed = k.destroyed ∧ k'.stats.destroyed = k.stats.destroyed

theorem schedule_sameConts {k k' : Clock} {cont : Option Nat} {kind : Kind} {d : Int} {id : Nat}
    (h : k.schedule cont kind d = .ok (id, k')) : SameConts k k' := by
  cases cont with
  | none => simp [schedule] at h
  | some c =>
    simp only [schedule] at h
    split at h
    · cases h
    · obtain ⟨rfl, rfl⟩ := Prod.mk.inj (Except.ok.inj h)
      cases kind <;> exact ⟨rfl, rfl⟩

theorem cancel_sameConts (k : Clock) (a : Option Nat) : SameConts k (k.cancel a).2 := by
  unfold cancel
  split <;> exact ⟨rfl, rfl⟩

theorem takeDue_sameConts {k k' : Clock} {t : Time} {f : Firing}
    (h : k.takeDue t = some (f, k')) : SameConts k k' := by
  obtain ⟨q, -, rfl⟩ := takeDue_eq_some.mp h
  exact ⟨rfl, rfl⟩

theorem SameConts.trans {k₁ k₂ k₃ : Clock} (h₁ : SameConts k₁ k₂) (h₂ : SameConts k₂ k₃) :
    SameConts k₁ k₃ :=
  ⟨h₂.1.trans h₁.1, h₂.2.trans h₁.2⟩

/-- Destroying a live continuation the clock made marks it destroyed and counts it. -/
theorem destroyContinuation_live {k : Clock} {c : Nat} (hl : k.isDestroyed c = false)
    (hv : 0 < c ∧ c ≤ k.destroyed.size) :
    (k.destroyContinuation (some c)).isDestroyed c = true ∧
      (k.destroyContinuation (some c)).destroyed.size = k.destroyed.size ∧
      (k.destroyContinuation (some c)).stats.destroyed = k.stats.destroyed + 1 := by
  have hc : ¬(k.isDestroyed c || c = 0 || c > k.destroyed.size) = true := by
    simp [hl]
    omega
  simp only [destroyContinuation, hc]
  refine ⟨?_, by simp, rfl⟩
  simp [isDestroyed, Array.set!_eq_setIfInBounds, Array.getElem?_setIfInBounds]
  rw [if_pos (show c - 1 < k.destroyed.size by omega)]
  rfl


/-- How many continuations are marked destroyed. -/
def destroyedCount (k : Clock) : Nat := k.destroyed.toList.count true

theorem newContinuation_isDestroyed (k : Clock) (c : Nat) :
    k.newContinuation.2.isDestroyed c = k.isDestroyed c := by
  simp only [newContinuation, isDestroyed, Array.getD_eq_getD_getElem?, Array.getElem?_push]
  split
  · rename_i h
    simp [h]
  · rfl

theorem newContinuation_destroyedCount (k : Clock) :
    k.newContinuation.2.destroyedCount = k.destroyedCount := by
  simp [newContinuation, destroyedCount]

/-- Destroying a continuation that is already destroyed changes nothing. -/
theorem destroyContinuation_of_destroyed {k : Clock} {c : Nat} (h : k.isDestroyed c = true) :
    k.destroyContinuation (some c) = k := by
  simp [destroyContinuation, h]

/-- Destroying a continuation the clock made leaves it destroyed, whether it was or not. -/
theorem destroyContinuation_marks {k : Clock} {c : Nat} (hv : 0 < c ∧ c ≤ k.destroyed.size) :
    (k.destroyContinuation (some c)).isDestroyed c = true := by
  cases h : k.isDestroyed c with
  | true =>
    rw [destroyContinuation_of_destroyed h]
    exact h
  | false => exact (destroyContinuation_live h hv).1

theorem destroyContinuation_size (k : Clock) (x : Option Nat) :
    (k.destroyContinuation x).destroyed.size = k.destroyed.size := by
  unfold destroyContinuation
  split
  · rfl
  · split
    · rfl
    · simp

/-- A destroy never clears a mark. -/
theorem destroyContinuation_keeps {k : Clock} {c : Nat} (x : Option Nat)
    (h : k.isDestroyed c = true) : (k.destroyContinuation x).isDestroyed c = true := by
  unfold destroyContinuation
  split
  · exact h
  · split
    · exact h
    · simp only [isDestroyed, Array.set!_eq_setIfInBounds, Array.getD_eq_getD_getElem?,
        Array.getElem?_setIfInBounds] at h ⊢
      split_ifs <;> simp_all

/-- A destroy that marks a continuation counts it, so the count stays the number of marks. -/
theorem destroyContinuation_counted {k : Clock} (x : Option Nat)
    (h : k.stats.destroyed = k.destroyedCount) :
    (k.destroyContinuation x).stats.destroyed = (k.destroyContinuation x).destroyedCount := by
  unfold destroyContinuation
  split
  · exact h
  · split
    · exact h
    · rename_i c hc
      simp only [Bool.or_eq_true, decide_eq_true_eq, not_or, Bool.not_eq_true] at hc
      obtain ⟨⟨hl, h0⟩, hs⟩ := hc
      have hlt : c - 1 < k.destroyed.size := by omega
      have hflag : k.destroyed[c - 1] = false := by
        simpa only [isDestroyed, Array.getD_eq_getD_getElem?, Array.getElem?_eq_getElem hlt,
          Option.getD_some] using hl
      have hlt' : c - 1 < k.destroyed.toList.length := by simpa using hlt
      simp only [destroyedCount, Array.set!_eq_setIfInBounds, Array.toList_setIfInBounds,
        List.count_set hlt', Array.getElem_toList, hflag]
      simp only [destroyedCount] at h
      simp [h]

/-- A call that runs no handler leaves the continuations alone, makes one, or destroys one. -/
theorem call_conts {k k' : Clock} {c : Port.Call} {r : Port.Reply}
    (h : port.call k c = some (r, k')) :
    SameConts k k' ∨
      (c = .newContinuation ∧ r = .cont (k.destroyed.size + 1) ∧ k' = k.newContinuation.2) ∨
      ∃ x, c = .destroy x ∧ k' = k.destroyContinuation x := by
  cases callEffect_of_call h with
  | keep => exact .inl ⟨rfl, rfl⟩
  | once hs | every hs => exact .inl (schedule_sameConts hs)
  | @cancel a => exact .inl (cancel_sameConts k a)
  | newContinuation => exact .inr (.inl ⟨rfl, rfl, rfl⟩)
  | @destroy x => exact .inr (.inr ⟨x, rfl, rfl⟩)

/-- What a step does to the continuations: leaves them alone, makes one, or destroys one. -/
theorem move_conts {k k' : Clock} (h : port.Move k k') :
    SameConts k k' ∨ k' = k.newContinuation.2 ∨ ∃ x, k' = k.destroyContinuation x := by
  cases h with
  | call hc =>
    rcases call_conts hc with hs | ⟨-, -, rfl⟩ | ⟨x, -, rfl⟩
    · exact .inl hs
    · exact .inr (.inl rfl)
    · exact .inr (.inr ⟨x, rfl⟩)
  | begin hb =>
    obtain ⟨-, rfl⟩ := beginAdvance_eq_some.mp hb
    exact .inl ⟨rfl, rfl⟩
  | take ht => exact .inl (takeDue_sameConts ht)
  | finish _ => exact .inl ⟨rfl, rfl⟩

/-- No step clears a mark of destruction. -/
theorem move_keeps_destroyed {k k' : Clock} (h : port.Move k k') {c : Nat}
    (hc : k.isDestroyed c = true) : k'.isDestroyed c = true := by
  rcases move_conts h with hs | rfl | ⟨x, rfl⟩
  · rw [isDestroyed_congr hs.1]
    exact hc
  · rw [newContinuation_isDestroyed]
    exact hc
  · exact destroyContinuation_keeps x hc

theorem moves_keep_destroyed {k k' : Clock} (h : ReflTransGen port.Move k k') {c : Nat}
    (hc : k.isDestroyed c = true) : k'.isDestroyed c = true :=
  Port.Move.invariant (fun _ _ hm hk => move_keeps_destroyed hm hk) h hc

/-- No step forgets a continuation. -/
theorem move_size_le {k k' : Clock} (h : port.Move k k') :
    k.destroyed.size ≤ k'.destroyed.size := by
  rcases move_conts h with hs | rfl | ⟨x, rfl⟩
  · rw [hs.1]
  · simp [newContinuation]
  · rw [destroyContinuation_size]

theorem moves_size_le {k k' : Clock} (h : ReflTransGen port.Move k k') :
    k.destroyed.size ≤ k'.destroyed.size :=
  Port.Move.invariant (I := fun k' => k.destroyed.size ≤ k'.destroyed.size)
    (fun _ _ hm hk => hk.trans (move_size_le hm)) h (le_refl _)

/-- Every step keeps the count of destroyed continuations equal to the number of marks. -/
theorem move_destroyed_counted {k k' : Clock} (h : port.Move k k')
    (hk : k.stats.destroyed = k.destroyedCount) : k'.stats.destroyed = k'.destroyedCount := by
  rcases move_conts h with hs | rfl | ⟨x, rfl⟩
  · rw [hs.2, destroyedCount, hs.1]
    exact hk
  · rw [newContinuation_destroyedCount]
    exact hk
  · exact destroyContinuation_counted x hk

/-! ## What a destroyed continuation still gets -/

/-- Arming on a destroyed continuation is refused as closed. -/
theorem schedule_destroyed {k : Clock} {c : Nat} (h : k.isDestroyed c = true) (kind : Kind)
    (d : Int) : k.schedule (some c) kind d = .error (destroyedFault c) := by
  simp [schedule, h]

/-- Arming on a destroyed continuation answers the refusal and leaves the clock as it was. -/
theorem call_arm_destroyed {k : Clock} {c : Nat} (h : k.isDestroyed c = true) (d : Int) :
    port.call k (.scheduleOnce (some c) d) = some (.armed (.error (destroyedFault c)), k) ∧
      port.call k (.scheduleEvery (some c) d) = some (.armed (.error (destroyedFault c)), k) := by
  simp [Port.call, port, scheduleOnce, scheduleEvery, schedule_destroyed h, Port.armReply]

theorem schedule_fired {k k' : Clock} {cont : Option Nat} {kind : Kind} {d : Int} {id : Nat}
    (h : k.schedule cont kind d = .ok (id, k')) : k'.stats.fired = k.stats.fired := by
  cases cont with
  | none => simp [schedule] at h
  | some c =>
    simp only [schedule] at h
    split at h
    · cases h
    · obtain ⟨rfl, rfl⟩ := Prod.mk.inj (Except.ok.inj h)
      cases kind <;> rfl

/-- A call that runs no handler leaves the count of firings as it is. -/
theorem call_fired {k k' : Clock} {c : Port.Call} {r : Port.Reply}
    (h : port.call k c = some (r, k')) : k'.stats.fired = k.stats.fired := by
  cases callEffect_of_call h with
  | keep | newContinuation => rfl
  | once hs | every hs => exact schedule_fired hs
  | @cancel a =>
    unfold cancel
    split <;> rfl
  | @destroy x =>
    unfold destroyContinuation
    split
    · rfl
    · split <;> rfl

theorem calls_fired {k k' : Clock} {log : List (Port.Call × Port.Reply)}
    (h : port.Calls k log k') : k'.stats.fired = k.stats.fired := by
  induction h with
  | nil => rfl
  | cons hc _ ih => exact ih.trans (call_fired hc)

/-- Every firing an advance takes counts once as fired, whether it runs its handler or not. -/
theorem fires_fired {t : Time} {k k' : Clock} {ds : List Port.Delivery}
    (h : port.Fires t k ds k') : k'.stats.fired = k.stats.fired + ds.length := by
  induction h with
  | finish => rfl
  | skip ht _ _ ih =>
    obtain ⟨q, -, rfl⟩ := takeDue_eq_some.mp ht
    rw [ih, List.length_cons]
    simp only
    omega
  | deliver ht _ hc _ ih =>
    obtain ⟨q, -, rfl⟩ := takeDue_eq_some.mp ht
    rw [ih, calls_fired hc, List.length_cons]
    simp only
    omega

/-- A call that runs no handler keeps every pending action, unless it is a cancel that succeeds,
which removes exactly the actions with the canceled id. -/
theorem call_entries {k k' : Clock} {c : Port.Call} {r : Port.Reply}
    (h : port.call k c = some (r, k')) :
    (∀ a ∈ k.queue.entries, a ∈ k'.queue.entries) ∨
      ∃ id, c = .cancel (some id) ∧ r = .canceled (.ok ()) ∧
        k'.queue.entries = k.queue.entries.filter (·.id != id) := by
  cases callEffect_of_call h with
  | keep | newContinuation => exact .inl fun a ha => ha
  | once hs | every hs =>
    obtain ⟨c, -, -, hq, -⟩ := schedule_eq_ok hs
    rw [Queue.arm_eq] at hq
    exact .inl fun a hmem => by
      rw [(Prod.mk.inj hq).2]
      exact Queue.mem_insert.mpr (.inr hmem)
  | @cancel x =>
    unfold cancel
    split
    · rename_i q hq
      cases x with
      | none => simp at hq
      | some id =>
        obtain ⟨-, rfl⟩ := Queue.cancel_eq_some.mp hq
        exact .inr ⟨id, rfl, rfl, rfl⟩
    · exact .inl fun a ha => ha
  | @destroy x => exact .inl fun a ha => by rw [destroyContinuation_queue]; exact ha

/-- A pending action stays pending through a handler's calls, unless one of them cancels it. -/
theorem calls_keep_pending {k k' : Clock} {log : List (Port.Call × Port.Reply)}
    (h : port.Calls k log k') {a : Action} (ha : a ∈ k.queue.entries) :
    a ∈ k'.queue.entries ∨ (Port.Call.cancel (some a.id), Port.Reply.canceled (.ok ())) ∈ log := by
  induction h with
  | nil => exact .inl ha
  | @cons s s₁ s₂ c r rest hc _ ih =>
    rcases call_entries hc with hkeep | ⟨i, rfl, rfl, hq⟩
    · exact (ih (hkeep a ha)).imp id (List.mem_cons_of_mem _)
    · by_cases hid : a.id = i
      · subst hid
        exact .inr List.mem_cons_self
      · have ha₁ : a ∈ s₁.queue.entries := by
          rw [hq]
          exact List.mem_filter.mpr ⟨ha, by simpa using hid⟩
        exact (ih ha₁).imp id (List.mem_cons_of_mem _)

/-- Taking a firing takes the first pending action and leaves every other one pending. -/
theorem take_or_keep {k k' : Clock} {t : Time} {f : Firing} (h : k.takeDue t = some (f, k'))
    {a : Action} (ha : a ∈ k.queue.entries) : f = a.firing ∨ a ∈ k'.queue.entries := by
  obtain ⟨b, rest, he, -, rfl, hq, -⟩ := takeDue_cases h
  rw [he] at ha
  rcases List.mem_cons.mp ha with rfl | ha
  · exact .inl rfl
  · rw [hq]
    exact .inr (Queue.mem_afterFiring.mpr (.inl ha))

/-- An advance takes every action pending when it starts and due by its target, at its due time,
unless a handler that runs during it cancels the action first. -/
theorem fires_takes_due {t : Time} {k k' : Clock} {ds : List Port.Delivery}
    (h : port.Fires t k ds k') (hk : k.Inv) {a : Action} (ha : a ∈ k.queue.entries)
    (hdue : a.due.ns ≤ t.ns) :
    (∃ d ∈ ds, d.firing = a.firing ∧ d.now.ns = a.due.ns) ∨
      ∃ d ∈ ds, ∃ log, d.handler = some log ∧
        (Port.Call.cancel (some a.id), Port.Reply.canceled (.ok ())) ∈ log := by
  induction h with
  | finish hn =>
    have := Queue.lt_due_of_popDue_eq_none hk.wf (takeDue_eq_none.mp hn) a ha
    omega
  | skip ht _ _ ih =>
    rcases take_or_keep ht ha with rfl | ha₁
    · exact .inl ⟨_, List.mem_cons_self, rfl, (take_now ht hk).1⟩
    · rcases ih (take_inv ht hk) ha₁ with ⟨d, hd, hrest⟩ | ⟨d, hd, hrest⟩
      · exact .inl ⟨d, List.mem_cons_of_mem _ hd, hrest⟩
      · exact .inr ⟨d, List.mem_cons_of_mem _ hd, hrest⟩
  | deliver ht _ hc _ ih =>
    rcases take_or_keep ht ha with rfl | ha₁
    · exact .inl ⟨_, List.mem_cons_self, rfl, (take_now ht hk).1⟩
    · rcases calls_keep_pending hc ha₁ with ha₂ | hcancel
      · rcases ih (moves_inv hc.moves (take_inv ht hk)) ha₂ with ⟨d, hd, hrest⟩ | ⟨d, hd, hrest⟩
        · exact .inl ⟨d, List.mem_cons_of_mem _ hd, hrest⟩
        · exact .inr ⟨d, List.mem_cons_of_mem _ hd, hrest⟩
      · exact .inr ⟨_, List.mem_cons_self, _, rfl, hcancel⟩

/-- An advance runs no handler of a continuation destroyed when it starts. -/
theorem fires_skip_destroyed {t : Time} {k k' : Clock} {ds : List Port.Delivery}
    (h : port.Fires t k ds k') {c : Nat} (hc : k.isDestroyed c = true) :
    ∀ d ∈ ds, d.firing.cont = c → d.handler = none := by
  induction h with
  | finish => simp
  | skip ht _ _ ih =>
    intro d hd
    rcases List.mem_cons.mp hd with rfl | hd
    · exact fun _ => rfl
    · exact ih (move_keeps_destroyed (.take ht) hc) d hd
  | deliver ht hl hcalls _ ih =>
    intro d hd hdc
    have hc₁ := move_keeps_destroyed (.take ht) hc
    rcases List.mem_cons.mp hd with rfl | hd
    · -- the firing ran its handler, so its continuation was live and is not `c`
      simp only at hdc
      rw [hdc] at hl
      exact absurd hc₁ (by simpa [port] using hl)
    · exact ih (moves_keep_destroyed hcalls.moves hc₁) d hd hdc

/-- An advance that starts answers how many handlers ran, after its firings. -/
theorem op_advance {k k' : Clock} {c : Port.Call} {r : Port.Reply} {ds : List Port.Delivery}
    {t : Time} (h : port.Op k c r ds k') (ht : port.target k c = some t)
    (hk : k.advancing = false) :
    r = .delivered (Port.ran ds) ∧ port.Fires t { k with advancing := true } ds k' := by
  cases h with
  | call hc =>
    cases c <;> simp [Port.target] at ht <;> simp [Port.call, port, beginAdvance, hk] at hc
  | advance htg hb hf =>
    rw [ht] at htg
    cases htg
    obtain ⟨-, rfl⟩ := beginAdvance_eq_some.mp hb
    exact ⟨rfl, hf⟩

/-- The events that show a continuation made: its id is new and counted among the made. -/
theorem shows_newContinuation {k k' : Clock} {c : Nat}
    (h : Port.Shows port k (.call .newContinuation (.cont c)) k') :
    0 < c ∧ c ≤ k'.destroyed.size := by
  have hc := h.call_of_target rfl
  simp only [Port.call, port, Option.some.injEq, Prod.mk.injEq, Port.Reply.cont.injEq] at hc
  obtain ⟨rfl, rfl⟩ := hc
  simp [newContinuation]

theorem shows_destroy {k k' : Clock} {x : Option Nat} {r : Port.Reply}
    (h : Port.Shows port k (.call (.destroy x) r) k') : k' = k.destroyContinuation x := by
  have hc := h.call_of_target rfl
  simp only [Port.call, port, Option.some.injEq, Prod.mk.injEq] at hc
  exact hc.2.symm

/-! ## A destroyed continuation stays silent -/

/-- Once a continuation the clock made is destroyed, no later firing of a history runs its handler
and every later arming on it is refused as closed, wherever the destroy was made. -/
theorem silent_after_destroy {t₀ : Time} {es : List Port.Entry} {k : Clock} {c : Nat}
    {pre post : List Port.Event} (hh : port.History (start t₀) es k)
    (hev : Port.events es = pre ++ .call (.destroy (some c)) .done :: post)
    (hmade : Port.Event.call .newContinuation (.cont c) ∈ pre) :
    (∀ f now, Port.Event.fired f now true ∈ post → f.cont ≠ c) ∧
      ∀ d r, (Port.Event.call (.scheduleOnce (some c) d) r ∈ post ∨
          Port.Event.call (.scheduleEvery (some c) d) r ∈ post) →
        r = .armed (.error (destroyedFault c)) := by
  have hr := hh.runs
  rw [hev] at hr
  obtain ⟨m, hpre, hpost⟩ := hr.split
  cases hpost with
  | step hm hs hrest =>
    -- the continuation was made before it was destroyed, so the destroy marks it
    obtain ⟨n₁, n₂, -, hn, hn₂⟩ := hpre.of_mem hmade
    obtain ⟨hc0, hcn⟩ := shows_newContinuation hn
    have hmark := destroyContinuation_marks ⟨hc0, hcn.trans (moves_size_le (hn₂.trans hm))⟩
    rw [← shows_destroy hs] at hmark
    refine ⟨?_, ?_⟩
    · intro f now hf hfc
      obtain ⟨x₁, x₂, hx, hsx, -⟩ := hrest.of_mem hf
      obtain ⟨⟨u, ht⟩, -, hran⟩ := hsx.fired_inv
      have hd := move_keeps_destroyed (.take ht) (moves_keep_destroyed hx hmark)
      rw [hfc] at hran
      simp [port, hd] at hran
    · intro d r hin
      rcases hin with hin | hin
      · obtain ⟨x₁, x₂, hx, hsx, -⟩ := hrest.of_mem hin
        have hc := (call_arm_destroyed (moves_keep_destroyed hx hmark) d).1
        rw [hsx.call_of_target rfl] at hc
        exact congrArg Prod.fst (Option.some.inj hc)
      · obtain ⟨x₁, x₂, hx, hsx, -⟩ := hrest.of_mem hin
        have hc := (call_arm_destroyed (moves_keep_destroyed hx hmark) d).2
        rw [hsx.call_of_target rfl] at hc
        exact congrArg Prod.fst (Option.some.inj hc)

/-- An advance that starts while a continuation is destroyed answers how many handlers ran, counts
every firing as fired, runs none of that continuation's handlers, and takes each of its actions due
by the target at its due time unless a handler cancels it first. -/
theorem advance_after_destroy {t₀ : Time} {k k' : Clock} {call : Port.Call} {r : Port.Reply}
    {ds : List Port.Delivery} {t : Time} {c : Nat} (hk : ReflTransGen port.Move (start t₀) k)
    (hadv : k.advancing = false) (htg : port.target k call = some t)
    (hop : port.Op k call r ds k') (hc : k.isDestroyed c = true) :
    r = .delivered (Port.ran ds) ∧ k'.stats.fired = k.stats.fired + ds.length ∧
      (∀ d ∈ ds, d.firing.cont = c → d.handler = none) ∧
      ∀ a ∈ k.pendingOn c, a.due.ns ≤ t.ns →
        (∃ d ∈ ds, d.firing = a.firing ∧ d.now.ns = a.due.ns ∧ d.handler = none) ∨
        ∃ d ∈ ds, ∃ log, d.handler = some log ∧
          (Port.Call.cancel (some a.id), Port.Reply.canceled (.ok ())) ∈ log := by
  obtain ⟨rfl, hf⟩ := op_advance hop htg hadv
  have hi := reachable_inv hk
  have hi₁ : ({ k with advancing := true } : Clock).Inv := ⟨hi.wf, hi.due_ge, hi.period_pos⟩
  have hskip := fires_skip_destroyed hf (c := c) hc
  have hfired := fires_fired hf
  refine ⟨rfl, hfired, hskip, ?_⟩
  intro a ha hdue
  obtain ⟨ha, hac⟩ := mem_pendingOn.mp ha
  rcases fires_takes_due hf hi₁ ha hdue with ⟨d, hd, hfa, hnow⟩ | hcancel
  · exact .inl ⟨d, hd, hfa, hnow, hskip d hd (by rw [hfa]; exact hac)⟩
  · exact .inr hcancel

/-- A destroyed continuation stays silent: in every history no later firing runs its handler and
every arming on it is refused as closed, while an advance still takes its due actions and counts
them fired. -/
theorem destroyed_continuation_stays_silent (t₀ : Time) :
    (∀ es k c pre post, port.History (start t₀) es k →
      Port.events es = pre ++ .call (.destroy (some c)) .done :: post →
      Port.Event.call .newContinuation (.cont c) ∈ pre →
      (∀ f now, Port.Event.fired f now true ∈ post → f.cont ≠ c) ∧
      ∀ d r, (Port.Event.call (.scheduleOnce (some c) d) r ∈ post ∨
          Port.Event.call (.scheduleEvery (some c) d) r ∈ post) →
        r = .armed (.error (destroyedFault c))) ∧
    (∀ (k : Clock) c d, k.isDestroyed c = true →
      port.call k (.scheduleOnce (some c) d) = some (.armed (.error (destroyedFault c)), k) ∧
      port.call k (.scheduleEvery (some c) d) = some (.armed (.error (destroyedFault c)), k)) ∧
    (∀ c, (destroyedFault c).finds .closed = true) ∧
    (∀ k k' call r ds t c, ReflTransGen port.Move (start t₀) k → k.advancing = false →
      port.target k call = some t → port.Op k call r ds k' → k.isDestroyed c = true →
      r = .delivered (Port.ran ds) ∧ k'.stats.fired = k.stats.fired + ds.length ∧
      (∀ d ∈ ds, d.firing.cont = c → d.handler = none) ∧
      ∀ a ∈ k.pendingOn c, a.due.ns ≤ t.ns →
        (∃ d ∈ ds, d.firing = a.firing ∧ d.now.ns = a.due.ns ∧ d.handler = none) ∨
        ∃ d ∈ ds, ∃ log, d.handler = some log ∧
          (Port.Call.cancel (some a.id), Port.Reply.canceled (.ok ())) ∈ log) ∧
    ∀ k, ReflTransGen port.Move (start t₀) k →
      k.stats.destroyed = k.destroyedCount ∧
      ∀ c, k.isDestroyed c = true → k.destroyContinuation (some c) = k := by
  refine ⟨fun _ _ _ _ _ hh hev hmade => silent_after_destroy hh hev hmade,
    fun k c d h => call_arm_destroyed h d, fun c => rfl,
    fun _ _ _ _ _ _ _ hk hadv htg hop hc => advance_after_destroy hk hadv htg hop hc, ?_⟩
  intro k hk
  refine ⟨?_, fun c hc => destroyContinuation_of_destroyed hc⟩
  exact Port.Move.invariant (fun _ _ hm h => move_destroyed_counted hm h) hk rfl

/-- A continuation destroyed with an action pending: arming on it again is refused, and the
advance that takes the pending action runs no handler. -/
theorem destroyed_continuation_is_not_delivered :
    ∃ ds k, port.History (start Time.epoch)
        [⟨.newContinuation, .cont 1, []⟩, ⟨.scheduleOnce (some 1) 5, .armed (.ok 1), []⟩,
          ⟨.destroy (some 1), .done, []⟩,
          ⟨.scheduleOnce (some 1) 5, .armed (.error (destroyedFault 1)), []⟩,
          ⟨.advance 10, .delivered 0, ds⟩] k ∧ ds.length = 1 ∧
      (∀ f now, Port.Event.fired f now true ∈
          Port.events [⟨.scheduleOnce (some 1) 5, .armed (.error (destroyedFault 1)), []⟩,
            ⟨.advance 10, .delivered 0, ds⟩] → f.cont ≠ 1) := by
  obtain ⟨ds, k, hh, hlen⟩ : ∃ ds k, port.History (start Time.epoch)
      [⟨.newContinuation, .cont 1, []⟩, ⟨.scheduleOnce (some 1) 5, .armed (.ok 1), []⟩,
        ⟨.destroy (some 1), .done, []⟩,
        ⟨.scheduleOnce (some 1) 5, .armed (.error (destroyedFault 1)), []⟩,
        ⟨.advance 10, .delivered 0, ds⟩] k ∧ ds.length = 1 :=
    ⟨_, _, .cons (.call rfl) (.cons (.call rfl) (.cons (.call rfl) (.cons (.call rfl)
      (.cons (.advance rfl rfl (.skip rfl rfl (.finish rfl))) (.nil _))))), rfl⟩
  exact ⟨ds, k, hh, hlen, ((destroyed_continuation_stays_silent Time.epoch).1 _ k 1
    [.call .newContinuation (.cont 1), .call (.scheduleOnce (some 1) 5) (.armed (.ok 1))] _ hh rfl
    List.mem_cons_self).1⟩

end Clock

end HostDispatch
