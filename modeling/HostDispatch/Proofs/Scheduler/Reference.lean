import HostDispatch.Proofs.Scheduler.Invariant

/-!
# A reference scheduler

The clock keeps its pending actions sorted and fires its head. The reference keeps them as a list
in no order: arming adds an action at the front, canceling filters it out, and taking a firing
searches the actions due by the target for the one with the least (due, action id), moves the clock
to its due time if that is later, counts it as fired, and drops it if it fires once or moves it one
period on if it repeats. Everything else it shares with the clock.

Main statement: `Reference.lockstep`. The clock and the reference, started agreeing, answer every
call alike (firing for firing, with the clock's time at each delivery) and keep agreeing: the same
time, counters and destroyed flags and the same pending actions up to order. The heart of it is
`earliest_filter_of_sorted`: the least action of an unordered list is the head of its sorted
version. `Manual.manual_refines_reference` composes it with the clock over the heap.
-/

namespace HostDispatch

namespace Reference

open Port

/-- The least action of a list by (due, id). -/
def earliest : List Action → Option Action
  | [] => none
  | a :: rest =>
    match earliest rest with
    | none => some a
    | some b => if a.before b then some a else some b

/-- Arm an action on a continuation: the next id, due `d` after now, with `d` as its period if it
repeats. It joins the front of the list. -/
def arm (k : Clock) (cont : Nat) (kind : Kind) (d : Int) : Nat × Clock :=
  let a : Action := { id := k.queue.lastId + 1, cont := cont, kind := kind,
                      period := if kind = .every then d else 0, due := k.now.add d }
  let stats := match kind with
    | .once => { k.stats with scheduledOnce := k.stats.scheduledOnce + 1 }
    | .every => { k.stats with scheduledEvery := k.stats.scheduledEvery + 1 }
  (a.id, { k with queue := { entries := a :: k.queue.entries, lastId := a.id }, stats := stats })

/-- Arm on a live continuation; no continuation, or a destroyed one, is refused. -/
def schedule (k : Clock) (cont : Option Nat) (kind : Kind) (d : Int) :
    Except Fault (Nat × Clock) :=
  match cont with
  | none => .error (Validation.missing "hostsched" "continuation")
  | some c => if k.isDestroyed c then .error (Clock.destroyedFault c) else .ok (arm k c kind d)

/-- Cancel a pending action; anything else is a misuse. -/
def cancel (k : Clock) (action : Option Nat) : Except Fault Unit × Clock :=
  match action.filter fun id => k.queue.entries.any (·.id == id) with
  | some id =>
    (.ok (), { k with queue := { k.queue with entries := k.queue.entries.filter (·.id != id) },
                      stats := { k.stats with canceled := k.stats.canceled + 1 } })
  | none =>
    (.error (.sentinel .actionNotPending),
      { k with stats := { k.stats with cancelMisuse := k.stats.cancelMisuse + 1 } })

/-- What is left after an action fired: the others, and the action one period on if it repeats. -/
def afterFiring (a : Action) (others : List Action) : List Action :=
  match a.kind with
  | .once => others
  | .every => { a with due := a.due.add a.period } :: others

/-- Take the action with the least (due, id) among those due by the target. -/
def takeDue (k : Clock) (target : Time) : Option (Firing × Clock) :=
  match earliest (k.queue.entries.filter fun a => !a.due.after target) with
  | none => none
  | some a =>
    let entries := afterFiring a (k.queue.entries.filter (·.id != a.id))
    some (a.firing, { k with queue := { k.queue with entries := entries },
                             now := if a.due.after k.now then a.due else k.now,
                             stats := { k.stats with fired := k.stats.fired + 1 } })

/-- The reference as a port: a negative delay fires at once, a period below `minPeriod` is raised
to it, and the next due time is that of the least action. -/
def port : Port Clock :=
  { Clock.port with
    scheduleOnce := fun k c d => schedule k c .once (max d 0)
    scheduleEvery := fun k c d => schedule k c .every (max d minPeriod)
    cancel := cancel
    nextDue := fun k => (earliest k.queue.entries).map (·.due)
    takeDue := takeDue }

/-! ## The least action -/

/-- `a` is a least action of `l`: it is in `l` and fires before every action with another id. -/
def IsEarliest (l : List Action) (a : Action) : Prop :=
  a ∈ l ∧ ∀ b ∈ l, b.id ≠ a.id → a.before b

theorem earliest_eq_none {l : List Action} : earliest l = none ↔ l = [] := by
  cases l with
  | nil => simp [earliest]
  | cons a rest =>
    simp only [earliest, reduceCtorEq, iff_false]
    split
    · simp
    · split <;> simp

theorem isEarliest_of_earliest {l : List Action} (hn : (l.map (·.id)).Nodup) {a : Action}
    (h : earliest l = some a) : IsEarliest l a := by
  induction l generalizing a with
  | nil => simp [earliest] at h
  | cons c rest ih =>
    have hnr : (rest.map (·.id)).Nodup := (List.nodup_cons.mp (by simpa using hn)).2
    simp only [earliest] at h
    split at h
    · rename_i hr
      obtain rfl := Option.some.inj h
      refine ⟨List.mem_cons_self, fun b hb hne => ?_⟩
      rw [earliest_eq_none.mp hr] at hb
      rcases List.mem_cons.mp hb with rfl | hb
      · exact absurd rfl hne
      · simp at hb
    · rename_i b hr
      obtain ⟨hb, hmin⟩ := ih hnr hr
      split at h
      · rename_i hcb
        obtain rfl := Option.some.inj h
        refine ⟨List.mem_cons_self, fun x hx hne => ?_⟩
        rcases List.mem_cons.mp hx with rfl | hx
        · exact absurd rfl hne
        · by_cases hxb : x.id = b.id
          · obtain rfl := List.inj_on_of_nodup_map hnr hx hb hxb
            exact hcb
          · exact Action.before_trans hcb (hmin x hx hxb)
      · rename_i hcb
        obtain rfl := Option.some.inj h
        refine ⟨List.mem_cons_of_mem c hb, fun x hx hne => ?_⟩
        rcases List.mem_cons.mp hx with rfl | hx
        · exact (Action.before_total hne).resolve_left hcb
        · exact hmin x hx hne

/-- With distinct ids, the least action is unique, and `earliest` finds it. -/
theorem earliest_eq_some_iff {l : List Action} (hn : (l.map (·.id)).Nodup) {a : Action} :
    earliest l = some a ↔ IsEarliest l a := by
  refine ⟨isEarliest_of_earliest hn, fun ha => ?_⟩
  cases h : earliest l with
  | none => exact absurd (earliest_eq_none.mp h ▸ ha.1) (by simp)
  | some b =>
    obtain ⟨hb, hbmin⟩ := isEarliest_of_earliest hn h
    by_contra hne
    have hab : a ≠ b := fun e => hne (congrArg some e.symm)
    have hid : a.id ≠ b.id := fun e => hab (List.inj_on_of_nodup_map hn ha.1 hb e)
    have h1 := ha.2 b hb (Ne.symm hid)
    have h2 := hbmin a ha.1 hid
    rw [Action.not_before_of_before h1] at h2
    cases h2

/-- The least action of actions kept in no order is the head of their sorted arrangement. -/
theorem earliest_of_sorted {l l' : List Action} (hq : l.Pairwise (·.before ·))
    (hn : (l.map (·.id)).Nodup) (hp : l.Perm l') : earliest l' = l.head? := by
  have hn' : (l'.map (·.id)).Nodup := (hp.map _).nodup_iff.mp hn
  cases l with
  | nil =>
    rw [← hp.nil_eq]
    rfl
  | cons a rest =>
    refine (earliest_eq_some_iff hn').mpr ⟨hp.subset List.mem_cons_self, fun b hb hne => ?_⟩
    rcases List.mem_cons.mp (hp.symm.subset hb) with rfl | hb
    · exact absurd rfl hne
    · exact Queue.head_before hq b hb

/-- In sorted order, the first action due by a target is the head, if that is due. -/
theorem head?_filter_of_sorted {l : List Action} (hq : l.Pairwise (·.before ·)) (target : Time) :
    (l.filter fun a => !a.due.after target).head? =
      l.head?.filter fun a => !a.due.after target := by
  cases l with
  | nil => rfl
  | cons a rest =>
    by_cases hdue : (!a.due.after target) = true
    · simp [hdue, Option.filter_some]
    · have hlt : target.ns < a.due.ns := by simpa [Time.after] using hdue
      have hrest : rest.filter (fun a => !a.due.after target) = [] := by
        refine List.filter_eq_nil_iff.mpr fun b hb => ?_
        have hab := Action.before_iff.mp (Queue.head_before hq b hb)
        unfold Firing.Before at hab
        simp only [Action.firing_due] at hab
        have hb' : target.ns < b.due.ns := by omega
        simpa [Time.after] using hb'
      simp only [List.filter_cons, hdue, hrest, List.head?_cons, Option.filter_some]
      rfl

/-- The least action due by a target, among actions kept in no order, is the head of their sorted
arrangement when that head is due, and there is none otherwise. -/
theorem earliest_filter_of_sorted {l l' : List Action} (hq : l.Pairwise (·.before ·))
    (hn : (l.map (·.id)).Nodup) (hp : l.Perm l') (target : Time) :
    earliest (l'.filter fun a => !a.due.after target) =
      l.head?.filter fun a => !a.due.after target := by
  have hnf : ((l.filter fun a => !a.due.after target).map (·.id)).Nodup :=
    hn.sublist (List.filter_sublist.map _)
  rw [earliest_of_sorted (hq.filter _) hnf (hp.filter _), head?_filter_of_sorted hq]

/-- Taking one action out of a list with distinct ids leaves the others. -/
theorem filter_id_perm {l rest : List Action} {a : Action} (hp : l.Perm (a :: rest))
    (hn : ((a :: rest).map (·.id)).Nodup) : (l.filter (·.id != a.id)).Perm rest := by
  refine (hp.filter _).trans ?_
  rw [List.map_cons, List.nodup_cons] at hn
  simp only [List.filter_cons, bne_self_eq_false, Bool.false_eq_true, if_false]
  have hkeep : rest.filter (·.id != a.id) = rest := by
    refine List.filter_eq_self.mpr fun b hb => ?_
    simp only [bne_iff_ne, ne_eq]
    exact fun e => hn.1 (e ▸ List.mem_map_of_mem hb)
  rw [hkeep]

/-- What is left after an action fired is the same in both, up to order. -/
theorem afterFiring_perm {a : Action} {rest rest' : List Action} (hp : rest.Perm rest')
    (target : Time) : (Queue.afterFiring a rest target false).Perm (afterFiring a rest') := by
  unfold Queue.afterFiring afterFiring
  cases a.kind with
  | once => exact hp
  | every =>
    have hnext : Queue.nextDue a target false = a.due.add a.period := by simp [Queue.nextDue]
    rw [hnext]
    exact (Queue.insert_perm _ _).trans (hp.cons _)

/-! ## The clock and the reference agree -/

/-- A clock and a reference state agree: the clock's queue is well formed, both hold the same
pending actions in some order and have handed out the same ids, and they show the same time,
counters, destroyed flags and advance. -/
structure Agree (k r : Clock) : Prop where
  wf : k.queue.Wf
  perm : k.queue.entries.Perm r.queue.entries
  lastId : r.queue.lastId = k.queue.lastId
  now : r.now = k.now
  stats : r.stats = k.stats
  destroyed : r.destroyed = k.destroyed
  advancing : r.advancing = k.advancing

theorem agree_start (t : Time) : Agree (Clock.start t) (Clock.start t) :=
  ⟨Queue.wf_empty 0, List.Perm.refl _, rfl, rfl, rfl, rfl, rfl⟩

namespace Agree

variable {k r : Clock}

theorem nodup (h : Agree k r) : (r.queue.entries.map (·.id)).Nodup :=
  (h.perm.map _).nodup_iff.mp h.wf.nodup

theorem isDestroyed (h : Agree k r) (c : Nat) : r.isDestroyed c = k.isDestroyed c := by
  simp [Clock.isDestroyed, h.destroyed]

/-- The reference state is the clock with the reference's queue. -/
theorem eq_withQueue (h : Agree k r) : r = { k with queue := r.queue } := by
  obtain ⟨now, queue, stats, destroyed, advancing⟩ := r
  have h1 : now = k.now := h.now
  have h2 : stats = k.stats := h.stats
  have h3 : destroyed = k.destroyed := h.destroyed
  have h4 : advancing = k.advancing := h.advancing
  subst h1 h2 h3 h4
  rfl

/-- A state agrees with its copy holding an agreeing queue. -/
theorem withQueue (h : Agree k r) {k' : Clock} (hq : k'.queue = k.queue) :
    Agree k' { k' with queue := r.queue } :=
  ⟨hq ▸ h.wf, hq ▸ h.perm, hq ▸ h.lastId, rfl, rfl, rfl, rfl⟩

theorem newContinuation (h : Agree k r) :
    r.newContinuation.1 = k.newContinuation.1 ∧
      Agree k.newContinuation.2 r.newContinuation.2 := by
  rw [h.eq_withQueue]
  exact ⟨rfl, h.withQueue rfl⟩

theorem destroyContinuation (h : Agree k r) (c : Option Nat) :
    Agree (k.destroyContinuation c) (r.destroyContinuation c) := by
  have hw := h.withQueue (Clock.destroyContinuation_queue k c)
  rw [h.eq_withQueue]
  cases c with
  | none => exact hw
  | some c =>
    unfold Clock.destroyContinuation at hw ⊢
    simp only [Clock.isDestroyed] at hw ⊢
    by_cases hc : (k.destroyed.getD (c - 1) false || decide (c = 0) ||
        decide (c > k.destroyed.size)) = true
    · simp only [hc] at hw ⊢
      exact hw
    · simp only [hc] at hw ⊢
      exact hw

theorem finishAdvance (h : Agree k r) (t : Time) :
    Agree (k.finishAdvance t) (r.finishAdvance t) := by
  rw [h.eq_withQueue]
  exact h.withQueue rfl

theorem beginAdvance (h : Agree k r) : Option.Rel Agree k.beginAdvance r.beginAdvance := by
  rw [h.eq_withQueue]
  unfold Clock.beginAdvance
  cases k.advancing
  · exact .some (h.withQueue rfl)
  · exact .none

theorem withStats (h : Agree k r) (f : ClockStats → ClockStats) :
    Agree { k with stats := f k.stats } { r with stats := f r.stats } :=
  ⟨h.wf, h.perm, h.lastId, h.now, by rw [h.stats], h.destroyed, h.advancing⟩

theorem pending (h : Agree k r) : r.pending = k.pending :=
  h.perm.length_eq.symm

theorem nextDue (h : Agree k r) : (earliest r.queue.entries).map (·.due) = k.nextDue := by
  rw [earliest_of_sorted h.wf.sorted h.wf.nodup h.perm]
  rfl

theorem schedule (h : Agree k r) (cont : Option Nat) (kind : Kind) (d : Int) :
    (armReply r (Reference.schedule r cont kind d)).1 = (armReply k (k.schedule cont kind d)).1 ∧
      Agree (armReply k (k.schedule cont kind d)).2
        (armReply r (Reference.schedule r cont kind d)).2 := by
  cases cont with
  | none => exact ⟨rfl, h⟩
  | some c =>
    by_cases hd : k.isDestroyed c
    · have hd' : r.isDestroyed c = true := (h.isDestroyed c).trans hd
      simp only [Reference.schedule, Clock.schedule, hd, hd', if_true, armReply]
      exact ⟨trivial, h⟩
    · have hd' : r.isDestroyed c = false := (h.isDestroyed c).trans (by simpa using hd)
      have ha : ({ id := r.queue.lastId + 1, cont := c, kind := kind,
                   period := if kind = .every then d else 0, due := r.now.add d } : Action) =
          k.queue.armed c kind d k.now := by
        rw [h.lastId, h.now]
        rfl
      simp only [Reference.schedule, Clock.schedule, hd, hd', Bool.false_eq_true, if_false, arm,
        Queue.arm_eq, armReply, ha]
      refine ⟨by rw [h.lastId], Queue.arm_wf h.wf c kind d k.now, ?_, by simp [h.lastId], h.now,
        by cases kind <;> simp [h.stats], h.destroyed, h.advancing⟩
      exact (Queue.insert_perm _ _).trans (h.perm.cons _)

theorem cancel (h : Agree k r) (a : Option Nat) :
    (Reference.cancel r a).1 = (k.cancel a).1.map (fun _ => ()) ∧
      Agree (k.cancel a).2 (Reference.cancel r a).2 := by
  cases a with
  | none => exact ⟨rfl, h.withStats fun s => { s with cancelMisuse := s.cancelMisuse + 1 }⟩
  | some id =>
    have hany : r.queue.entries.any (·.id == id) = k.queue.entries.any (·.id == id) := by
      rw [Bool.eq_iff_iff, List.any_eq_true, List.any_eq_true]
      simp only [h.perm.mem_iff]
    by_cases hp : k.queue.entries.any (·.id == id)
    · have hq : k.queue.cancel id =
          some { k.queue with entries := k.queue.entries.filter (·.id != id) } := by
        simp [Queue.cancel, Queue.pending, hp]
      simp only [Reference.cancel, Clock.cancel, Option.bind_some, hq, Option.filter_some, hany, hp,
        if_true]
      refine ⟨rfl, Queue.cancel_wf h.wf hq, h.perm.filter _, h.lastId, h.now, by rw [h.stats],
        h.destroyed, h.advancing⟩
    · have hq : k.queue.cancel id = none := by simp [Queue.cancel, Queue.pending, hp]
      simp only [Reference.cancel, Clock.cancel, Option.bind_some, hq, Option.filter_some, hany, hp,
        Bool.false_eq_true, if_false]
      exact ⟨rfl, h.withStats fun s => { s with cancelMisuse := s.cancelMisuse + 1 }⟩

theorem takeDue (h : Agree k r) (t : Time) :
    Option.Rel (fun x y => x.1 = y.1 ∧ Agree x.2 y.2) (k.takeDue t) (Reference.takeDue r t) := by
  have he := earliest_filter_of_sorted h.wf.sorted h.wf.nodup h.perm t
  unfold Reference.takeDue Clock.takeDue
  rw [he]
  cases hq : k.queue.entries with
  | nil =>
    simp only [Queue.popDue, hq, List.head?_nil, Option.filter_none]
    exact .none
  | cons a rest =>
    rw [Queue.popDue_of_entries_eq hq]
    by_cases hdue : a.due.after t
    · simp only [hdue, if_true, List.head?_cons, Option.filter_some, Bool.not_true,
        Bool.false_eq_true, if_false]
      exact .none
    · have hp : (a :: rest).Perm r.queue.entries := hq ▸ h.perm
      have hn : ((a :: rest).map (·.id)).Nodup := hq ▸ h.wf.nodup
      simp only [hdue, Bool.false_eq_true, if_false, List.head?_cons, Option.filter_some,
        Bool.not_false, if_true]
      refine .some ⟨rfl, Queue.afterFiring_wf h.wf hq t false, ?_, h.lastId, ?_, ?_, h.destroyed,
        h.advancing⟩
      · exact afterFiring_perm (filter_id_perm hp.symm hn).symm t
      · rw [h.now]
        rfl
      · simp [h.stats]

end Agree

/-! ## Refinement -/

/-- The clock and the reference, started agreeing, answer every call alike and stay agreeing. -/
theorem lockstep : Lockstep Clock.port port Agree where
  now _ _ h := h.now
  isDestroyed _ _ c h := h.isDestroyed c
  call k r c h := by
    cases c with
    | now => exact .some ⟨congrArg Port.Reply.time h.now.symm, h⟩
    | newContinuation =>
      obtain ⟨h1, h2⟩ := h.newContinuation
      exact .some ⟨congrArg Port.Reply.cont h1.symm, h2⟩
    | scheduleOnce c d =>
      obtain ⟨h1, h2⟩ := h.schedule c .once (max d 0)
      exact .some ⟨h1.symm, h2⟩
    | scheduleEvery c d =>
      obtain ⟨h1, h2⟩ := h.schedule c .every (max d minPeriod)
      exact .some ⟨h1.symm, h2⟩
    | cancel a =>
      obtain ⟨h1, h2⟩ := h.cancel a
      exact .some ⟨congrArg Port.Reply.canceled h1.symm, h2⟩
    | destroy c => exact .some ⟨rfl, h.destroyContinuation c⟩
    | isDestroyed c => exact .some ⟨congrArg Port.Reply.flag (h.isDestroyed c).symm, h⟩
    | pending => exact .some ⟨congrArg Port.Reply.count h.pending.symm, h⟩
    | nextDue => exact .some ⟨congrArg Port.Reply.due h.nextDue.symm, h⟩
    | stats => exact .some ⟨congrArg Port.Reply.stats h.stats.symm, h⟩
    | advance _ | advanceTo _ =>
      -- An advance is refused alike: both are advancing or neither is.
      have hb : (port.beginAdvance r).isSome = (Clock.port.beginAdvance k).isSome := by
        show r.beginAdvance.isSome = k.beginAdvance.isSome
        unfold Clock.beginAdvance
        rw [h.advancing]
        split <;> rfl
      simp only [Port.call, hb]
      split
      · exact .none
      · exact .some ⟨rfl, h⟩
  begin _ _ h := h.beginAdvance
  take _ _ t h := h.takeDue t
  finish _ _ t h := h.finishAdvance t

end Reference

end HostDispatch
