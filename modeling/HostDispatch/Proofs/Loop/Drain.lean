import HostDispatch.Proofs.Loop.Gauge

/-!
# A loop's turn takes each due action once

When the loop's goroutine wakes it takes firings from its queue, one `popDue` after another at one
instant, until nothing is due. Missed firings are skipped: a repeating action that fires comes back
one period after its due time, or one period after the instant when that is not after it. With a
positive period both are after the instant, so within the turn the action is not due again.

Main statement: `Loop.turn_ends_without_backlog`. For every loop made from a configuration, every
loop it can become and every instant, the loop's own turn, bounded by one take more than there are
pending actions, ends because nothing is due any more; and every run of successful takes has at most
as many firings as there are pending actions, fires no action twice, fires only pending actions due
by the instant, and leaves each repeating action it fired pending again, strictly after the instant.

The measure is the number of pending actions due by the instant (`Queue.dueCount`): each take
removes one of them or moves it past the instant. Periods are positive because a loop's least
period is positive once its defaults are filled in, and every repeating action is armed at least
that far apart (`Loop.Paced`).
-/

namespace HostDispatch

namespace Queue

variable {q q₁ q' : Queue} {now : Time} {f : Firing} {fs : List Firing}

/-! ## One take -/

/-- The pending actions due by an instant. -/
def dueCount (q : Queue) (now : Time) : Nat :=
  q.entries.countP fun a => decide (a.due.ns ≤ now.ns)

/-- Every repeating action of the queue fires at least `m` apart. -/
def Spaced (q : Queue) (m : Int) : Prop := ∀ a ∈ q.entries, a.kind = .every → m ≤ a.period

theorem Spaced.mono {m m' : Int} (h : q.Spaced m) (hm : m' ≤ m) : q.Spaced m' :=
  fun a ha hk => le_trans hm (h a ha hk)

/-- With missed firings skipped, a repeating action comes back one period after its due time when
that is after the instant, and one period after the instant otherwise. -/
theorem nextDue_ns (a : Action) (now : Time) :
    (nextDue a now true).ns =
      if now.ns < a.due.ns + a.period then a.due.ns + a.period else now.ns + a.period := by
  unfold nextDue
  by_cases h : now.ns < a.due.ns + a.period <;> simp [h, Time.after, Time.add]

/-- With a positive period, that is after the instant. -/
theorem lt_nextDue {a : Action} (h : 0 < a.period) (now : Time) :
    now.ns < (nextDue a now true).ns := by
  rw [nextDue_ns]
  split <;> omega

theorem Spaced.popDue {m : Int} {skip : Bool} (hq : q.Spaced m)
    (h : q.popDue now skip = some (f, q₁)) : q₁.Spaced m := by
  obtain ⟨a, rest, he, -, -, rfl⟩ := popDue_eq_some.mp h
  intro b hb hk
  rcases mem_afterFiring.mp hb with hb | ⟨-, rfl⟩
  · exact hq b (he ▸ List.mem_cons_of_mem a hb) hk
  · exact hq a (he ▸ List.mem_cons_self) hk

/-- A take at an instant takes one action due by it out of the count: a one-shot action leaves,
and a repeating one with a positive period comes back after the instant. -/
theorem dueCount_popDue (hq : q.Spaced 1) (h : q.popDue now true = some (f, q₁)) :
    q₁.dueCount now + 1 = q.dueCount now := by
  obtain ⟨a, rest, he, hdue, -, rfl⟩ := popDue_eq_some.mp h
  have hrest : (afterFiring a rest now true).countP (fun b => decide (b.due.ns ≤ now.ns)) =
      rest.countP fun b => decide (b.due.ns ≤ now.ns) := by
    unfold afterFiring
    cases hk : a.kind with
    | once => rfl
    | every =>
      -- the action comes back after the instant, so it no longer counts
      have hlt := lt_nextDue (hq a (he ▸ List.mem_cons_self) hk) now
      rw [(insert_perm _ _).countP_eq, List.countP_cons]
      simp only [decide_eq_true_eq]
      rw [if_neg (by omega), Nat.add_zero]
  simp only [dueCount, he, List.countP_cons, hrest, decide_eq_true_eq, if_pos hdue]

/-- Nothing is taken when nothing is due. -/
theorem popDue_eq_none_of_dueCount (h : q.dueCount now = 0) : q.popDue now true = none := by
  refine popDue_eq_none.mpr fun a ha => ?_
  have hmem : a ∈ q.entries := List.mem_of_mem_head? ha
  have hnot := List.countP_eq_zero.mp h a hmem
  simp only [decide_eq_true_eq] at hnot
  omega

/-! ## Runs of takes -/

/-- Firings taken one after another at an instant, each by a `popDue` that found the head due,
with missed firings skipped. -/
inductive Pops (now : Time) : Queue → List Firing → Queue → Prop
  | nil (q : Queue) : Pops now q [] q
  | cons {q q₁ q' : Queue} {f : Firing} {fs : List Firing} :
      q.popDue now true = some (f, q₁) → Pops now q₁ fs q' → Pops now q (f :: fs) q'

/-- A run of takes that ends because nothing is due by the instant any more. -/
def Drains (now : Time) (q : Queue) (fs : List Firing) (q' : Queue) : Prop :=
  Pops now q fs q' ∧ q'.popDue now true = none

theorem Pops.spaced {m : Int} (h : Pops now q fs q') (hq : q.Spaced m) : q'.Spaced m := by
  induction h with
  | nil => exact hq
  | cons hp _ ih => exact ih (hq.popDue hp)

theorem Pops.wf (h : Pops now q fs q') (hq : q.Wf) : q'.Wf := by
  induction h with
  | nil => exact hq
  | cons hp _ ih => exact ih (popDue_wf hq hp)

/-- Every take of a run removes one due action from the count, so a run has no more firings than
there were actions due. -/
theorem Pops.length_add_dueCount (h : Pops now q fs q') (hq : q.Spaced 1) :
    fs.length + q'.dueCount now = q.dueCount now := by
  induction h with
  | nil => simp
  | cons hp _ ih =>
    have hstep := dueCount_popDue hq hp
    have hrest := ih (hq.popDue hp)
    simp only [List.length_cons]
    omega

/-- An action not due by the instant is never taken: it is still pending after the run. -/
theorem Pops.keeps (h : Pops now q fs q') {b : Action} (hb : b ∈ q.entries)
    (hlt : now.ns < b.due.ns) : b ∈ q'.entries := by
  induction h with
  | nil => exact hb
  | cons hp _ ih =>
    obtain ⟨a, rest, he, hdue, -, rfl⟩ := popDue_eq_some.mp hp
    have hne : b ≠ a := fun hba => by rw [hba] at hlt; omega
    rw [he] at hb
    exact ih (mem_afterFiring.mpr (.inl ((List.mem_cons.mp hb).resolve_left hne)))

/-- An action due by the instant after the head was taken was pending behind it: what a take puts
back is not due. -/
theorem mem_rest_of_popDue (hq : q.Spaced 1) (h : q.popDue now true = some (f, q₁))
    {a : Action} {rest : List Action} (he : q.entries = a :: rest) {b : Action}
    (hb : b ∈ q₁.entries) (hdue : b.due.ns ≤ now.ns) : b ∈ rest := by
  obtain ⟨a', rest', he', -, -, rfl⟩ := popDue_eq_some.mp h
  obtain ⟨rfl, rfl⟩ := List.cons.inj (he.symm.trans he')
  rcases mem_afterFiring.mp hb with hb | ⟨hk, rfl⟩
  · exact hb
  · have hlt := lt_nextDue (hq a (he ▸ List.mem_cons_self) hk) now
    exact absurd hdue (by simp only; omega)

/-- Each firing of a run is that of an action pending and due by the instant, and a repeating
action that fired is pending after the run, one period on. -/
theorem Pops.fired (h : Pops now q fs q') (hq : q.Spaced 1) :
    ∀ f ∈ fs, ∃ a ∈ q.entries, a.due.ns ≤ now.ns ∧ f = a.firing ∧
      (a.kind = .every → { a with due := nextDue a now true } ∈ q'.entries) := by
  induction h with
  | nil => simp
  | @cons q q₁ q' f fs hp hrest ih =>
    obtain ⟨a, rest, he, hdue, rfl, rfl⟩ := popDue_eq_some.mp hp
    have ha : a ∈ q.entries := he ▸ List.mem_cons_self
    intro g hg
    rcases List.mem_cons.mp hg with rfl | hg
    · -- the head fired; a repeating one is back after the instant and stays to the end
      refine ⟨a, ha, hdue, rfl, fun hk => hrest.keeps ?_ (lt_nextDue (hq a ha hk) now)⟩
      exact mem_afterFiring.mpr (.inr ⟨hk, rfl⟩)
    · obtain ⟨b, hb, hbdue, rfl, hback⟩ := ih (hq.popDue hp) g hg
      have hb' := mem_rest_of_popDue hq hp he hb hbdue
      exact ⟨b, he ▸ List.mem_cons_of_mem a hb', hbdue, rfl, hback⟩

/-- A run over a queue with distinct ids fires no action twice. -/
theorem Pops.nodup (h : Pops now q fs q') (hq : q.Wf) (hs : q.Spaced 1) :
    (fs.map (·.action)).Nodup := by
  induction h with
  | nil => simp
  | @cons q q₁ q' f fs hp hrest ih =>
    obtain ⟨a, rest, he, -, rfl, rfl⟩ := popDue_eq_some.mp hp
    have hn := hq.nodup
    rw [he, List.map_cons, List.nodup_cons] at hn
    refine List.nodup_cons.mpr ⟨?_, ih (popDue_wf hq hp) (hs.popDue hp)⟩
    -- every later firing is of an action of the rest, whose id is not the head's
    simp only [List.mem_map, not_exists, not_and]
    intro g hg hid
    obtain ⟨b, hb, hbdue, rfl, -⟩ := hrest.fired (hs.popDue hp) g hg
    exact hn.1 (List.mem_map.mpr ⟨b, mem_rest_of_popDue hs hp he hb hbdue, hid⟩)

/-- The loop's bounded turn is a run of takes, whatever its bound. -/
theorem pops_takeDue (now : Time) :
    ∀ (fuel : Nat) (q : Queue), Pops now q (Loop.takeDue now fuel q).1 (Loop.takeDue now fuel q).2
  | 0, q => .nil q
  | fuel + 1, q => by
    cases hp : q.popDue now true with
    | none =>
      simp only [Loop.takeDue, hp]
      exact .nil q
    | some p =>
      obtain ⟨f, q₁⟩ := p
      simp only [Loop.takeDue, hp]
      exact .cons hp (pops_takeDue now fuel q₁)

/-- With positive periods, a bound of at least the actions due lets the turn run until nothing is
due. -/
theorem drains_takeDue (hq : q.Spaced 1) :
    ∀ fuel, q.dueCount now ≤ fuel →
      Drains now q (Loop.takeDue now fuel q).1 (Loop.takeDue now fuel q).2 := by
  intro fuel
  induction fuel generalizing q with
  | zero =>
    intro hle
    show Drains now q [] q
    exact ⟨.nil q, popDue_eq_none_of_dueCount (by omega)⟩
  | succ fuel ih =>
    intro hle
    cases hp : q.popDue now true with
    | none =>
      simp only [Loop.takeDue, hp]
      exact ⟨.nil q, hp⟩
    | some p =>
      obtain ⟨f, q₁⟩ := p
      have hcount := dueCount_popDue hq hp
      obtain ⟨hpops, hnone⟩ := ih (hq.popDue hp) (by omega)
      simp only [Loop.takeDue, hp]
      exact ⟨.cons hp hpops, hnone⟩

end Queue

/-- Filling in the defaults gives a positive least period. -/
theorem LoopConfig.minPeriod_withDefaults_pos (c : LoopConfig) : 0 < c.withDefaults.minPeriod := by
  simp only [LoopConfig.withDefaults]
  split <;> omega

namespace Loop

variable {l l' : Loop} {act : LoopAct}

/-! ## What a step does to the queue -/

/-- What one step of a loop can do to its queue. -/
inductive QueueStep (l : Loop) : Queue → Prop
  /-- Leave it. -/
  | keep : QueueStep l l.queue
  /-- Arm one action at the loop's time; a repeating one at least the least period apart. -/
  | arm (c : Nat) (kind : Kind) (d : Int) : (kind = .every → l.config.minPeriod ≤ d) →
      QueueStep l (l.queue.arm c kind d l.now).2
  /-- Cancel one pending action. -/
  | cancel {q : Queue} {id : Nat} : l.queue.cancel id = some q → QueueStep l q
  /-- Take the firings due by the loop's time. -/
  | take : QueueStep l (takeDue l.now (l.queue.size + 1) l.queue).2
  /-- Drop every action. -/
  | drop : QueueStep l { l.queue with entries := [] }

theorem queueStep_schedule {c : Option Nat} {kind : Kind} {d : Int} {id : Nat}
    (h : l.schedule c kind d = .ok (id, l')) : QueueStep l l'.queue := by
  unfold Loop.schedule at h
  cases c with
  | none => cases h
  | some c =>
    simp only at h
    split at h
    · cases h
    split at h
    · cases h
    rw [Queue.arm_eq] at h
    obtain ⟨-, rfl⟩ := Prod.mk.inj (Except.ok.inj h)
    rw [count_queue, ← Queue.arm_eq]
    refine .arm c kind _ fun hk => ?_
    subst hk
    exact le_max_right _ _

theorem queueStep_cancel (a : Option Nat) : QueueStep l (l.cancel a).2.queue := by
  unfold Loop.cancel
  split
  · exact .keep
  · split
    · rename_i hq
      obtain ⟨id, -, hid⟩ := Option.bind_eq_some_iff.mp hq
      exact .cancel hid
    · exact .keep

theorem queueStep_closeStep (h : l.closeStep = some l') : QueueStep l l'.queue := by
  unfold Loop.closeStep at h
  split at h
  · simp only [Queue.dropAll, Option.some.injEq] at h
    subst h
    by_cases hz : l.queue.entries.length = 0 <;> simp only [hz, ↓reduceIte, count_queue] <;>
      exact .drop
  · cases h
    exact .keep
  · split at h
    · split at h <;> cases h <;> simpa using QueueStep.keep
    · cases h
  · split at h
    · cases h
      simpa using QueueStep.keep
    · cases h
  · cases h
    exact .keep

/-- Every step of a loop does one of the things `QueueStep` names to its queue. -/
theorem queueStep_of_next (h : l.next act = some l') : QueueStep l l'.queue := by
  cases act with
  | newContinuation k =>
    cases h
    split
    · rw [(newContinuation_frame ‹_›).1]
      exact .keep
    · exact .keep
  | schedule c kind d =>
    cases h
    split
    · exact queueStep_schedule ‹_›
    · exact .keep
  | cancel a =>
    cases h
    exact queueStep_cancel a
  | destroy c =>
    cases h
    rw [(destroy_frame c).1]
    exact .keep
  | tick t =>
    cases h
    split <;> exact .keep
  | wake =>
    obtain ⟨-, batch, q, ht, rfl⟩ := next_wake h
    rw [show q = (takeDue l.now (l.queue.size + 1) l.queue).2 by rw [ht]]
    exact .take
  | submit =>
    obtain ⟨f, rest, -, rfl⟩ := next_submit h
    rw [submit_queue]
    exact .keep
  | settle =>
    obtain ⟨i, rest, r, -, -, rfl⟩ := next_settle h
    rw [settle_queue]
    exact .keep
  | exit =>
    obtain ⟨-, -, rfl⟩ := next_exit h
    exact .keep
  | work a =>
    rw [(work_frame h).1]
    exact .keep
  | close => exact queueStep_closeStep h

/-! ## Repeating actions keep their distance -/

/-- What every loop keeps of its queue: it is well formed, and its repeating actions are at least
the least period apart, which is positive. -/
structure Paced (l : Loop) : Prop where
  wf : l.queue.Wf
  minPeriod_pos : 0 < l.config.minPeriod
  spaced : l.queue.Spaced l.config.minPeriod

theorem QueueStep.paced (hp : l.Paced) {q : Queue} (hs : QueueStep l q) :
    q.Wf ∧ q.Spaced l.config.minPeriod := by
  cases hs with
  | keep => exact ⟨hp.wf, hp.spaced⟩
  | arm c kind d hd =>
    refine ⟨Queue.arm_wf hp.wf c kind d l.now, fun b hb hk => ?_⟩
    rw [Queue.arm_eq] at hb
    rcases Queue.mem_insert.mp hb with rfl | hb
    · simp only [Queue.armed] at hk ⊢
      simp [hk, hd hk]
    · exact hp.spaced b hb hk
  | cancel hc =>
    refine ⟨Queue.cancel_wf hp.wf hc, fun b hb hk => ?_⟩
    obtain ⟨-, rfl⟩ := Queue.cancel_eq_some.mp hc
    exact hp.spaced b (List.mem_of_mem_filter hb) hk
  | take =>
    have hpops := Queue.pops_takeDue l.now (l.queue.size + 1) l.queue
    exact ⟨hpops.wf hp.wf, hpops.spaced hp.spaced⟩
  | drop => exact ⟨Queue.wf_empty _, fun b hb => by simp at hb⟩

theorem Paced.next (hp : l.Paced) (h : l.next act = some l') : l'.Paced := by
  have hc := (step_of_next h).config_eq
  obtain ⟨hwf, hspaced⟩ := (queueStep_of_next h).paced hp
  exact ⟨hwf, hc ▸ hp.minPeriod_pos, hc ▸ hspaced⟩

theorem Paced.reaches (hp : l.Paced) (hr : l.Reaches l') : l'.Paced := by
  induction hr with
  | refl => exact hp
  | tail _ hab ih =>
    obtain ⟨act, hact⟩ := hab
    exact ih.next hact

/-- A loop just made is paced: its queue is empty and its least period positive. -/
theorem paced_make {cfg : LoopConfig} {m : Option Metrics.Registry} {lg : Log.Logger}
    (h : Loop.make cfg m lg = .ok l) : l.Paced := by
  obtain ⟨-, -, hcfg, -, -, -, -, hq⟩ := make_eq h
  refine ⟨hq ▸ Queue.wf_empty 0, hcfg ▸ cfg.minPeriod_withDefaults_pos, ?_⟩
  intro b hb
  simp [hq] at hb

theorem reaches_steps (l : Loop) (acts : List LoopAct) : l.Reaches (l.steps acts) := by
  induction acts generalizing l with
  | nil => exact Relation.ReflTransGen.refl
  | cons act acts ih =>
    rw [steps_cons]
    cases hn : l.next act with
    | none => exact ih l
    | some l₁ => exact Relation.ReflTransGen.head ⟨act, hn⟩ (ih l₁)

/-! ## A turn -/

/-- **A loop's turn ends without a backlog burst.** In any loop a configuration can become, taking
the due firings as a turn does ends within the turn's bound with nothing due, fires no action
twice, and re-arms each repeating action strictly after the instant. -/
theorem turn_ends_without_backlog {cfg : LoopConfig} {reg : Option Metrics.Registry}
    {logger : Log.Logger} {l₀ l : Loop} (hmake : Loop.make cfg reg logger = .ok l₀)
    (hr : l₀.Reaches l) (now : Time) :
    Queue.Drains now l.queue (takeDue now (l.queue.size + 1) l.queue).1
        (takeDue now (l.queue.size + 1) l.queue).2 ∧
      ∀ fs q', Queue.Pops now l.queue fs q' →
        fs.length ≤ l.queue.size ∧ (fs.map (·.action)).Nodup ∧
        ∀ f ∈ fs, ∃ a ∈ l.queue.entries, a.due.ns ≤ now.ns ∧ f = a.firing ∧
          (a.kind = .every → now.ns < (Queue.nextDue a now true).ns ∧
            { a with due := Queue.nextDue a now true } ∈ q'.entries) := by
  have hp := (paced_make hmake).reaches hr
  -- a loop's repeating actions are at least its least period apart, so their periods are positive
  have hpos : l.queue.Spaced 1 := hp.spaced.mono (by have := hp.minPeriod_pos; omega)
  have hbound : l.queue.dueCount now ≤ l.queue.size + 1 :=
    Nat.le_succ_of_le (List.countP_le_length)
  refine ⟨Queue.drains_takeDue hpos _ hbound, fun fs q' hpops => ⟨?_, hpops.nodup hp.wf hpos, ?_⟩⟩
  · have hlen := hpops.length_add_dueCount hpos
    have hdue : l.queue.dueCount now ≤ l.queue.size := List.countP_le_length
    omega
  · intro f hf
    obtain ⟨a, ha, hdue, rfl, hback⟩ := hpops.fired hpos f hf
    exact ⟨a, ha, hdue, rfl, fun hk => ⟨Queue.lt_nextDue (hpos a ha hk) now, hback hk⟩⟩

/-- A loop with one continuation, a repeating action armed with a zero period (raised to the least
period) and a one-shot action, five milliseconds on. -/
theorem ticking_loop_turn_ends_without_backlog :
    let acts : List LoopAct := [.newContinuation (some {}), .schedule (some 1) .every 0,
      .schedule (some 1) .once 2000000, .tick ⟨5000000, Zone.utc⟩]
    ∃ l₀, Loop.make {} none default = .ok l₀ ∧ l₀.Reaches (l₀.steps acts) ∧
      (Queue.Drains (l₀.steps acts).now (l₀.steps acts).queue
          (takeDue (l₀.steps acts).now ((l₀.steps acts).queue.size + 1) (l₀.steps acts).queue).1
          (takeDue (l₀.steps acts).now ((l₀.steps acts).queue.size + 1) (l₀.steps acts).queue).2 ∧
        ∀ fs q', Queue.Pops (l₀.steps acts).now (l₀.steps acts).queue fs q' →
          fs.length ≤ (l₀.steps acts).queue.size ∧ (fs.map (·.action)).Nodup ∧
          ∀ f ∈ fs, ∃ a ∈ (l₀.steps acts).queue.entries, a.due.ns ≤ (l₀.steps acts).now.ns ∧
            f = a.firing ∧ (a.kind = .every →
              (l₀.steps acts).now.ns < (Queue.nextDue a (l₀.steps acts).now true).ns ∧
              { a with due := Queue.nextDue a (l₀.steps acts).now true } ∈ q'.entries)) := by
  intro acts
  exact ⟨_, rfl, reaches_steps _ acts,
    @turn_ends_without_backlog {} none default _ _ rfl (reaches_steps _ acts) _⟩

end Loop

end HostDispatch
