import HostDispatch.Proofs.Scheduler.Order
import HostDispatch.Proofs.Scheduler.Port

/-!
# The clock keeps time

In every state a clock reaches, by any calls of any client and whatever its handlers do, nothing
pending is due before now; time never goes back; and an advance takes its firings in strictly
increasing (due, action id) order, delivers each with the clock at its due time, and ends with the
clock at the later of where it was and the target, with nothing left due by the target.

Two invariants carry this. `Inv` is what holds in every state: a well-formed queue, nothing due
before now, a positive period for every repeating action. `After f` is what holds from the moment
`f` is taken: everything pending, and everything armed later, fires after `f`. Each is shown for one
`Move` at a time and then for whole runs.
-/

namespace HostDispatch

namespace Clock

open Relation Port

/-- What holds in every state a clock reaches: its queue is well formed, nothing pending is due
before now, and every repeating action has a positive period. -/
structure Inv (k : Clock) : Prop where
  wf : k.queue.Wf
  due_ge : ∀ a ∈ k.queue.entries, k.now.ns ≤ a.due.ns
  period_pos : ∀ a ∈ k.queue.entries, a.kind = .every → 0 < a.period

theorem inv_start (t : Time) : (start t).Inv :=
  ⟨Queue.wf_empty 0, by simp [start], by simp [start]⟩

/-- Taking a firing moves the clock to its due time, when nothing was due before now. -/
theorem ns_latest {due now : Time} (h : now.ns ≤ due.ns) :
    (if due.after now then due else now).ns = due.ns := by
  by_cases hd : due.after now
  · simp [hd]
  · simp only [hd, Bool.false_eq_true, if_false]
    simp only [Time.after, gt_iff_lt, decide_eq_true_eq] at hd
    omega

/-- What taking a firing does to a clock, in terms of the queue's head. -/
theorem takeDue_cases {k k' : Clock} {t : Time} {f : Firing} (h : k.takeDue t = some (f, k')) :
    ∃ a rest, k.queue.entries = a :: rest ∧ a.due.ns ≤ t.ns ∧ f = a.firing ∧
      k'.queue = { k.queue with entries := Queue.afterFiring a rest t false } ∧
      k'.now = (if a.due.after k.now then a.due else k.now) ∧ k'.advancing = k.advancing := by
  obtain ⟨q, hq, rfl⟩ := takeDue_eq_some.mp h
  obtain ⟨a, rest, he, hle, rfl, rfl⟩ := Queue.popDue_eq_some.mp hq
  exact ⟨a, rest, he, hle, rfl, rfl, rfl, rfl⟩

/-! ## One step keeps `Inv` -/

theorem call_inv {k k' : Clock} {c : Port.Call} {r : Port.Reply} (h : port.call k c = some (r, k'))
    (hk : k.Inv) : k'.Inv := by
  obtain ⟨hnow, -, hq⟩ := call_cases h
  rcases hq with hq | ⟨cont, kind, d, hd, hp, hq⟩ | ⟨id, hq⟩
  · refine ⟨hq ▸ hk.wf, ?_, ?_⟩
    · rw [hq, hnow]
      exact hk.due_ge
    · rw [hq]
      exact hk.period_pos
  · rw [Queue.arm_eq] at hq
    refine ⟨hq ▸ Queue.arm_wf hk.wf cont kind d k.now, ?_, ?_⟩
    · intro a ha
      rw [hq] at ha
      rcases Queue.mem_insert.mp ha with rfl | ha
      · simp only [Queue.armed, Time.add, hnow]
        omega
      · rw [hnow]
        exact hk.due_ge a ha
    · intro a ha hkind
      rw [hq] at ha
      rcases Queue.mem_insert.mp ha with rfl | ha
      · simp only [Queue.armed] at hkind ⊢
        simp only [hkind, if_true]
        have := hp hkind
        unfold minPeriod at this
        omega
      · exact hk.period_pos a ha hkind
  · have hwf := Queue.cancel_wf hk.wf hq
    obtain ⟨-, hq⟩ := Queue.cancel_eq_some.mp hq
    have hsub : ∀ a ∈ k'.queue.entries, a ∈ k.queue.entries := by
      intro a ha
      rw [hq] at ha
      exact List.mem_of_mem_filter ha
    refine ⟨hwf, ?_, ?_⟩
    · intro a ha
      rw [hnow]
      exact hk.due_ge a (hsub a ha)
    · exact fun a ha => hk.period_pos a (hsub a ha)

theorem take_inv {k k' : Clock} {t : Time} {f : Firing} (h : k.takeDue t = some (f, k'))
    (hk : k.Inv) : k'.Inv := by
  obtain ⟨a, rest, he, -, -, hq, hn, -⟩ := takeDue_cases h
  have hnow : k'.now.ns = a.due.ns := by
    rw [hn]
    exact ns_latest (hk.due_ge a (by simp [he]))
  have hsorted := hk.wf.sorted
  rw [he] at hsorted
  refine ⟨hq ▸ Queue.afterFiring_wf hk.wf he t false, ?_, ?_⟩
  · intro b hb
    rw [hq] at hb
    rw [hnow]
    rcases Queue.mem_afterFiring.mp hb with hb | ⟨hkind, rfl⟩
    · have hab := Action.before_iff.mp (Queue.head_before hsorted b hb)
      unfold Firing.Before at hab
      simp only [Action.firing_due] at hab
      omega
    · have := hk.period_pos a (by simp [he]) hkind
      simp only [Queue.nextDue, Bool.false_and, Bool.false_eq_true, if_false, Time.add]
      omega
  · intro b hb hkind
    rw [hq] at hb
    rcases Queue.mem_afterFiring.mp hb with hb | ⟨-, rfl⟩
    · exact hk.period_pos b (by simp [he, hb]) hkind
    · exact hk.period_pos a (by simp [he]) hkind

theorem finish_inv {k : Clock} {t : Time} (h : k.takeDue t = none) (hk : k.Inv) :
    (k.finishAdvance t).Inv := by
  have hlt := Queue.lt_due_of_popDue_eq_none hk.wf (takeDue_eq_none.mp h)
  refine ⟨hk.wf, ?_, hk.period_pos⟩
  intro a ha
  have h1 := hlt a ha
  have h2 := hk.due_ge a ha
  simp only [finishAdvance_now]
  split <;> omega

theorem move_inv {k k' : Clock} (h : port.Move k k') (hk : k.Inv) : k'.Inv := by
  cases h with
  | call hc => exact call_inv hc hk
  | begin hb =>
    obtain ⟨-, rfl⟩ := beginAdvance_eq_some.mp hb
    exact ⟨hk.wf, hk.due_ge, hk.period_pos⟩
  | take ht => exact take_inv ht hk
  | finish hn => exact finish_inv hn hk

theorem reachable_inv {t : Time} {k : Clock} (h : ReflTransGen port.Move (start t) k) : k.Inv :=
  Move.invariant (fun _ _ hm hk => move_inv hm hk) h (inv_start t)

/-- No step moves the clock back. -/
theorem move_now_le {k k' : Clock} (h : port.Move k k') : k.now.ns ≤ k'.now.ns := by
  cases h with
  | call hc => rw [(call_cases hc).1]
  | begin hb =>
    obtain ⟨-, rfl⟩ := beginAdvance_eq_some.mp hb
    exact le_refl _
  | take ht =>
    obtain ⟨a, -, -, -, -, -, hn, -⟩ := takeDue_cases ht
    rw [hn]
    split
    · rename_i hd
      simp only [Time.after, gt_iff_lt, decide_eq_true_eq] at hd
      omega
    · exact le_refl _
  | @finish t _ =>
    show k.now.ns ≤ (k.finishAdvance t).now.ns
    simp only [finishAdvance_now]
    split
    · rename_i hd
      simp only [Time.after, gt_iff_lt, decide_eq_true_eq] at hd
      omega
    · exact le_refl _

theorem moves_inv {k k' : Clock} (h : ReflTransGen port.Move k k') (hk : k.Inv) : k'.Inv :=
  Move.invariant (fun _ _ hm hk => move_inv hm hk) h hk

/-- A handler's calls leave the clock's time as it is. -/
theorem calls_now {k k' : Clock} {log : List (Port.Call × Port.Reply)} (h : port.Calls k log k') :
    k'.now = k.now ∧ ∀ u, (Port.Call.now, Port.Reply.time u) ∈ log → u = k.now := by
  induction h with
  | nil => simp
  | @cons s s₁ s₂ c r rest hc _ ih =>
    have hn := (call_cases hc).1
    refine ⟨ih.1.trans hn, ?_⟩
    intro u hu
    rcases List.mem_cons.mp hu with he | hu
    · obtain ⟨rfl, rfl⟩ := Prod.mk.inj he
      simp only [Port.call, port, Option.some.injEq, Prod.mk.injEq, Port.Reply.time.injEq] at hc
      exact hc.1.symm
    · exact (ih.2 u hu).trans hn

/-- Taking a firing sets the clock to its due time. -/
theorem take_now {k k' : Clock} {t : Time} {f : Firing} (h : k.takeDue t = some (f, k'))
    (hk : k.Inv) : k'.now.ns = f.due.ns ∧ f.due.ns ≤ t.ns := by
  obtain ⟨a, rest, he, hle, rfl, -, hn, -⟩ := takeDue_cases h
  rw [hn]
  exact ⟨ns_latest (hk.due_ge a (by simp [he])), hle⟩

/-! ## An advance takes its firings in order -/

/-- Everything pending fires after `f`, and so will anything armed from here on: no pending action
comes before it, every id handed out later is above its own, and the clock is not before it. -/
structure After (f : Firing) (k : Clock) : Prop where
  pending : ∀ a ∈ k.queue.entries, f.Before a.firing
  action_le : f.action ≤ k.queue.lastId
  due_le : f.due.ns ≤ k.now.ns

/-- Once taken, a firing comes before everything still pending. -/
theorem take_after {k k' : Clock} {t : Time} {f : Firing} (h : k.takeDue t = some (f, k'))
    (hk : k.Inv) : After f k' := by
  obtain ⟨a, rest, he, -, rfl, hq, -, -⟩ := takeDue_cases h
  have hsorted := hk.wf.sorted
  rw [he] at hsorted
  refine ⟨?_, ?_, (take_now h hk).1.ge⟩
  · intro b hb
    rw [hq] at hb
    rcases Queue.mem_afterFiring.mp hb with hb | ⟨hkind, rfl⟩
    · exact Action.before_iff.mp (Queue.head_before hsorted b hb)
    · have := hk.period_pos a (by simp [he]) hkind
      simp only [Firing.Before, Action.firing_due, Action.firing_action, Queue.nextDue,
        Bool.false_and, Bool.false_eq_true, if_false, Time.add]
      omega
  · rw [hq]
    exact hk.wf.le_lastId a (by simp [he])

theorem move_after {f : Firing} {k k' : Clock} (h : port.Move k k') (hk : k.Inv) (hf : After f k) :
    After f k' := by
  cases h with
  | call hc =>
    obtain ⟨hnow, -, hq⟩ := call_cases hc
    rcases hq with hq | ⟨cont, kind, d, hd, -, hq⟩ | ⟨id, hq⟩
    · exact ⟨hq ▸ hf.pending, hq ▸ hf.action_le, hnow ▸ hf.due_le⟩
    · rw [Queue.arm_eq] at hq
      refine ⟨?_, ?_, hnow ▸ hf.due_le⟩
      · intro a ha
        rw [hq] at ha
        rcases Queue.mem_insert.mp ha with rfl | ha
        · -- the new action is armed from now, with the next id
          have h1 := hf.due_le
          have h2 := hf.action_le
          simp only [Firing.Before, Action.firing_due, Action.firing_action, Queue.armed, Time.add]
          omega
        · exact hf.pending a ha
      · rw [hq]
        exact Nat.le_succ_of_le hf.action_le
    · obtain ⟨-, hq⟩ := Queue.cancel_eq_some.mp hq
      refine ⟨fun a ha => hf.pending a ?_, by rw [hq]; exact hf.action_le, hnow ▸ hf.due_le⟩
      rw [hq] at ha
      exact List.mem_of_mem_filter ha
  | begin hb =>
    obtain ⟨-, rfl⟩ := beginAdvance_eq_some.mp hb
    exact ⟨hf.pending, hf.action_le, hf.due_le⟩
  | take ht =>
    obtain ⟨a, rest, he, -, -, hq, -, -⟩ := takeDue_cases ht
    refine ⟨?_, by rw [hq]; exact hf.action_le, le_trans hf.due_le (move_now_le (Move.take ht))⟩
    intro b hb
    rw [hq] at hb
    rcases Queue.mem_afterFiring.mp hb with hb | ⟨hkind, rfl⟩
    · exact hf.pending b (by simp [he, hb])
    · have hfa := hf.pending a (by simp [he])
      have := hk.period_pos a (by simp [he]) hkind
      simp only [Firing.Before, Action.firing_due, Action.firing_action, Queue.nextDue,
        Bool.false_and, Bool.false_eq_true, if_false, Time.add] at hfa ⊢
      omega
  | finish hn =>
    exact ⟨hf.pending, hf.action_le, le_trans hf.due_le (move_now_le (Move.finish hn))⟩

theorem moves_after {f : Firing} {k k' : Clock} (h : ReflTransGen port.Move k k') (hk : k.Inv)
    (hf : After f k) : After f k' :=
  (Move.invariant (I := fun k => k.Inv ∧ After f k)
    (fun _ _ hm hi => ⟨move_inv hm hi.1, move_after hm hi.1 hi.2⟩) h ⟨hk, hf⟩).2

/-- Every firing of an advance from a state after `f` comes after `f`. -/
theorem fires_after {t : Time} {k k' : Clock} {ds : List Port.Delivery} (h : port.Fires t k ds k')
    {f : Firing} (hk : k.Inv) (hf : After f k) : ∀ d ∈ ds, f.Before d.firing := by
  induction h with
  | finish => simp
  | skip ht _ _ ih =>
    intro d hd
    rcases List.mem_cons.mp hd with rfl | hd
    · obtain ⟨a, rest, he, -, rfl, -⟩ := takeDue_cases ht
      exact hf.pending a (by simp [he])
    · exact ih (take_inv ht hk) (move_after (Move.take ht) hk hf) d hd
  | deliver ht _ hc _ ih =>
    intro d hd
    rcases List.mem_cons.mp hd with rfl | hd
    · obtain ⟨a, rest, he, -, rfl, -⟩ := takeDue_cases ht
      exact hf.pending a (by simp [he])
    · have hk₁ := take_inv ht hk
      exact ih (moves_inv hc.moves hk₁)
        (moves_after hc.moves hk₁ (move_after (Move.take ht) hk hf))
        d hd

/-- An advance takes its firings in strictly increasing (due, action id) order and delivers each
with the clock at its due time, where it stays while the handler runs. -/
theorem fires_in_order {t : Time} {k k' : Clock} {ds : List Port.Delivery}
    (h : port.Fires t k ds k')
    (hk : k.Inv) :
    (ds.map (·.firing)).Pairwise Firing.Before ∧
      ∀ d ∈ ds, d.now.ns = d.firing.due.ns ∧
        ∀ log, d.handler = some log → ∀ u, (Port.Call.now, Port.Reply.time u) ∈ log →
          u.ns = d.firing.due.ns := by
  induction h with
  | finish => simp
  | skip ht _ hrest ih =>
    have hk₁ := take_inv ht hk
    obtain ⟨hs, hn⟩ := ih hk₁
    refine ⟨List.pairwise_cons.mpr ⟨?_, hs⟩, ?_⟩
    · intro g hg
      obtain ⟨d, hd, rfl⟩ := List.mem_map.mp hg
      exact fires_after hrest hk₁ (take_after ht hk) d hd
    · intro d hd
      rcases List.mem_cons.mp hd with rfl | hd
      · exact ⟨(take_now ht hk).1, fun _ h => by cases h⟩
      · exact hn d hd
  | deliver ht _ hc hrest ih =>
    have hk₁ := take_inv ht hk
    have hk₂ := moves_inv hc.moves hk₁
    obtain ⟨hs, hn⟩ := ih hk₂
    refine ⟨List.pairwise_cons.mpr ⟨?_, hs⟩, ?_⟩
    · intro g hg
      obtain ⟨d, hd, rfl⟩ := List.mem_map.mp hg
      exact fires_after hrest hk₂ (moves_after hc.moves hk₁ (take_after ht hk)) d hd
    · intro d hd
      rcases List.mem_cons.mp hd with rfl | hd
      · refine ⟨(take_now ht hk).1, ?_⟩
        intro log hlog u hu
        cases hlog
        rw [(calls_now hc).2 u hu]
        exact (take_now ht hk).1
      · exact hn d hd

/-- An advance to `t` from a clock between `n` and `max n t` ends with the clock at `max n t` and
nothing due by `t`, whatever its handlers armed. -/
theorem fires_end {t : Time} {k k' : Clock} {ds : List Port.Delivery} (h : port.Fires t k ds k')
    (hk : k.Inv) {n : Int} (h₁ : n ≤ k.now.ns) (h₂ : k.now.ns ≤ max n t.ns) :
    k'.now.ns = max n t.ns ∧ ∀ a ∈ k'.queue.entries, t.ns < a.due.ns := by
  induction h with
  | @finish s hn =>
    refine ⟨?_, Queue.lt_due_of_popDue_eq_none (q := s.queue) hk.wf (takeDue_eq_none.mp hn)⟩
    show (s.finishAdvance t).now.ns = max n t.ns
    simp only [finishAdvance_now]
    split
    · rename_i ha
      simp only [Time.after, gt_iff_lt, decide_eq_true_eq] at ha
      omega
    · rename_i ha
      simp only [Time.after, gt_iff_lt, decide_eq_true_eq, not_lt] at ha
      omega
  | skip ht _ _ ih =>
    have hn := take_now ht hk
    exact ih (take_inv ht hk) (le_trans h₁ (move_now_le (Move.take ht))) (by omega)
  | deliver ht _ hc _ ih =>
    have hn := take_now ht hk
    have hc' := (calls_now hc).1
    refine ih (moves_inv hc.moves (take_inv ht hk)) ?_ ?_ <;> rw [hc'] <;>
      [exact le_trans h₁ (move_now_le (Move.take ht)); omega]

/-- A clock keeps time: in every state it reaches nothing pending is due before now and no step
moves it back, and an advance delivers its firings in (due, id) order at their due times and ends
at the later of now and the target with nothing due by it. -/
theorem clock_keeps_time (t₀ : Time) :
    (∀ k, ReflTransGen port.Move (start t₀) k →
      ∀ a ∈ k.queue.entries, k.now.ns ≤ a.due.ns) ∧
    (∀ k k', port.Move k k' → k.now.ns ≤ k'.now.ns) ∧
    ∀ k k₁ k' t ds, ReflTransGen port.Move (start t₀) k → k.beginAdvance = some k₁ →
      port.Fires t k₁ ds k' →
      (ds.map (·.firing)).Pairwise Firing.Before ∧
      (∀ d ∈ ds, d.now.ns = d.firing.due.ns ∧
        ∀ log, d.handler = some log → ∀ u, (Port.Call.now, Port.Reply.time u) ∈ log →
          u.ns = d.firing.due.ns) ∧
      k'.now.ns = max k.now.ns t.ns ∧ (∀ a ∈ k'.queue.entries, t.ns < a.due.ns) ∧
      ∀ u ∈ k'.nextDue, t.ns < u.ns := by
  refine ⟨fun k hk => (reachable_inv hk).due_ge, fun k k' h => move_now_le h, ?_⟩
  intro k k₁ k' t ds hk hb hf
  have hi := reachable_inv hk
  obtain ⟨-, rfl⟩ := beginAdvance_eq_some.mp hb
  have hi₁ : ({ k with advancing := true } : Clock).Inv := ⟨hi.wf, hi.due_ge, hi.period_pos⟩
  obtain ⟨hend, hlt⟩ := fires_end hf hi₁ (le_refl _) (le_max_left _ _)
  refine ⟨(fires_in_order hf hi₁).1, (fires_in_order hf hi₁).2, hend, hlt, ?_⟩
  intro u hu
  simp only [nextDue, Queue.peek, Option.mem_def, Option.map_eq_some_iff] at hu
  obtain ⟨a, ha, rfl⟩ := hu
  exact hlt a (List.mem_of_mem_head? ha)

/-- A one-shot action armed 5 ns ahead is delivered at its due time by an advance of 10 ns, which
ends at the target with nothing left due by it. -/
theorem one_shot_is_delivered_on_time :
    ∃ k k₁ k' ds, ReflTransGen port.Move (start Time.epoch) k ∧ k.beginAdvance = some k₁ ∧
      port.Fires (Time.epoch.add 10) k₁ ds k' ∧ ds.length = 1 ∧
      (∀ d ∈ ds, d.now.ns = d.firing.due.ns) ∧ k'.now.ns = max k.now.ns (Time.epoch.add 10).ns ∧
      ∀ a ∈ k'.queue.entries, (Time.epoch.add 10).ns < a.due.ns := by
  obtain ⟨k, k₁, k', ds, hk, hb, hf, hlen⟩ : ∃ k k₁ k' ds,
      ReflTransGen port.Move (start Time.epoch) k ∧ k.beginAdvance = some k₁ ∧
        port.Fires (Time.epoch.add 10) k₁ ds k' ∧ ds.length = 1 :=
    ⟨_, _, _, _, .tail (.tail .refl (.call (c := .newContinuation) rfl))
      (.call (c := .scheduleOnce (some 1) 5) rfl), rfl, .deliver rfl rfl (.nil _) (.finish rfl),
      rfl⟩
  obtain ⟨-, hdue, hend, hlt, -⟩ := (clock_keeps_time Time.epoch).2.2 k k₁ k' _ ds hk hb hf
  exact ⟨k, k₁, k', ds, hk, hb, hf, hlen, fun d hd => (hdue d hd).1, hend, hlt⟩

end Clock

end HostDispatch
