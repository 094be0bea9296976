import HostDispatch.Proofs.Scheduler.Invariant

/-!
# The actions pending on one continuation

What a party sees of the clock through its own continuation: the actions pending on it
(`Clock.pendingOn`), each with its id and kind (`Action.tag`). Each operation of the clock has one
lemma here saying what it does to them. Arming on the continuation adds one action, a cancel
removes the action with its id, and a firing of one of them drops it if it is a one-shot and keeps
it if it repeats. An operation on another continuation leaves them as they are (`Clock.Aside`).
-/

namespace HostDispatch

/-- An action's id and kind. -/
def Action.tag (a : Action) : Nat × Kind := (a.id, a.kind)

@[simp] theorem Action.tag_firing (a : Action) : (a.firing.action, a.firing.kind) = a.tag := rfl

namespace Queue

theorem filter_insert_of_not {a : Action} {p : Action → Bool} (ha : p a = false)
    (l : List Action) : (insert a l).filter p = l.filter p := by
  induction l with
  | nil => simp [insert, ha]
  | cons b rest ih =>
    unfold insert
    split <;> simp [List.filter_cons, ha, ih]

theorem filter_insert_perm {a : Action} {p : Action → Bool} (ha : p a = true) (l : List Action) :
    ((insert a l).filter p).Perm (a :: l.filter p) := by
  have h := (insert_perm a l).filter p
  rwa [List.filter_cons_of_pos ha] at h

end Queue

namespace Clock

/-- The actions pending on a continuation, in firing order. -/
def pendingOn (k : Clock) (c : Nat) : List Action := k.queue.entries.filter (·.cont == c)

/-- A change of the clock that leaves a continuation alone: the same actions are pending on it,
and it is destroyed after exactly when it was before. -/
structure Aside (c : Nat) (k k' : Clock) : Prop where
  pending : k'.pendingOn c = k.pendingOn c
  destroyed : k'.isDestroyed c = k.isDestroyed c

theorem Aside.refl (c : Nat) (k : Clock) : Aside c k k := ⟨rfl, rfl⟩

theorem mem_pendingOn {k : Clock} {c : Nat} {a : Action} :
    a ∈ k.pendingOn c ↔ a ∈ k.queue.entries ∧ a.cont = c := by
  simp [pendingOn]

theorem isDestroyed_congr {k k' : Clock} (h : k'.destroyed = k.destroyed) (c : Nat) :
    k'.isDestroyed c = k.isDestroyed c := by
  simp only [isDestroyed, h]

/-! ## Arming -/

theorem schedule_pendingOn_self {k k' : Clock} {c : Nat} {kind : Kind} {d : Int} {id : Nat}
    (h : k.schedule (some c) kind d = .ok (id, k')) :
    ((k'.pendingOn c).map Action.tag).Perm ((id, kind) :: (k.pendingOn c).map Action.tag) := by
  obtain ⟨c', hc, -, hq, -, -, -⟩ := schedule_eq_ok h
  cases hc
  rw [Queue.arm_eq] at hq
  obtain ⟨rfl, hk⟩ := Prod.mk.inj hq
  have hp := Queue.filter_insert_perm (p := (·.cont == c))
    (a := k.queue.armed c kind d k.now) (by simp [Queue.armed]) k.queue.entries
  simp only [pendingOn, hk]
  simpa [Action.tag, Queue.armed] using hp.map Action.tag

/-- Arming on a continuation with nothing pending leaves exactly the armed action pending on it. -/
theorem schedule_pendingOn_of_nil {k k' : Clock} {c : Nat} {kind : Kind} {d : Int} {id : Nat}
    (h : k.schedule (some c) kind d = .ok (id, k')) (hn : k.pendingOn c = []) :
    k'.pendingOn c = [k.queue.armed c kind d k.now] ∧ id = k.queue.lastId + 1 := by
  obtain ⟨c', hc, -, hq, -, -, -⟩ := schedule_eq_ok h
  cases hc
  rw [Queue.arm_eq] at hq
  obtain ⟨rfl, hk⟩ := Prod.mk.inj hq
  have hp := Queue.filter_insert_perm (p := (·.cont == c))
    (a := k.queue.armed c kind d k.now) (by simp [Queue.armed]) k.queue.entries
  refine ⟨?_, rfl⟩
  simp only [pendingOn] at hn
  simp only [pendingOn, hk]
  exact List.perm_singleton.mp (hn ▸ hp)

/-! ## Canceling -/

theorem cancel_pendingOn (k : Clock) (a c : Nat) :
    (k.cancel (some a)).2.pendingOn c = (k.pendingOn c).filter (·.id != a) := by
  unfold cancel
  split
  · rename_i q hq
    obtain ⟨-, rfl⟩ := Queue.cancel_eq_some.mp hq
    simp only [pendingOn, List.filter_filter, Bool.and_comm]
  · rename_i hq
    have hn := Queue.cancel_eq_none.mp hq
    symm
    refine List.filter_eq_self.mpr fun x hx => ?_
    simpa using hn x (mem_pendingOn.mp hx).1

/-- A cancel of a pending action succeeds: it counts as canceled and not as a misuse. -/
theorem cancel_stats_of_pending {k : Clock} {a : Nat} (h : ∃ x ∈ k.queue.entries, x.id = a) :
    (k.cancel (some a)).2.stats.canceled = k.stats.canceled + 1 ∧
      (k.cancel (some a)).2.stats.cancelMisuse = k.stats.cancelMisuse := by
  unfold cancel
  split
  · exact ⟨rfl, rfl⟩
  · rename_i hq
    obtain ⟨x, hx, rfl⟩ := h
    exact absurd rfl (Queue.cancel_eq_none.mp (by simpa using hq) x hx)

/-! ## Destroying -/

theorem destroyContinuation_pendingOn (k : Clock) (c' : Option Nat) (c : Nat) :
    (k.destroyContinuation c').pendingOn c = k.pendingOn c := by
  simp only [pendingOn, destroyContinuation_queue]

/-! ## Firing -/

theorem takeDue_destroyed {k k' : Clock} {t : Time} {f : Firing} (h : k.takeDue t = some (f, k')) :
    k'.destroyed = k.destroyed := by
  obtain ⟨q, -, rfl⟩ := takeDue_eq_some.mp h
  rfl

/-- A firing is of the first action pending on its continuation; after it a one-shot is gone, and
a repeating action is pending again with the same id. -/
theorem takeDue_pendingOn_self {k k' : Clock} {t : Time} {f : Firing}
    (h : k.takeDue t = some (f, k')) :
    ∃ rest, (k.pendingOn f.cont).map Action.tag = (f.action, f.kind) :: rest ∧
      ((k'.pendingOn f.cont).map Action.tag).Perm
        (match f.kind with
         | .once => rest
         | .every => (f.action, .every) :: rest) := by
  obtain ⟨a, rest, he, -, rfl, hq, -, -⟩ := takeDue_cases h
  refine ⟨(rest.filter (·.cont == a.cont)).map Action.tag, ?_, ?_⟩
  · simp [pendingOn, he, Action.tag]
  · simp only [pendingOn, hq, Action.firing_kind, Action.firing_action, Action.firing_cont]
    unfold Queue.afterFiring
    cases hk : a.kind with
    | once => exact List.Perm.refl _
    | every =>
      have hp := Queue.filter_insert_perm (p := (·.cont == a.cont))
        (a := { a with due := Queue.nextDue a t false }) (by simp) rest
      simpa [Action.tag, hk] using hp.map Action.tag

/-- A firing on a continuation with one action pending is of that action; after it a one-shot is
gone, and a repeating action is pending again one period on. -/
theorem takeDue_pendingOn_single {k k' : Clock} {t : Time} {f : Firing} {a : Action}
    (h : k.takeDue t = some (f, k')) (ha : k.pendingOn f.cont = [a]) :
    f = a.firing ∧
      k'.pendingOn f.cont =
        (match a.kind with
         | .once => []
         | .every => [{ a with due := a.due.add a.period }]) := by
  obtain ⟨b, rest, he, -, rfl, hq, -, -⟩ := takeDue_cases h
  have hpend : b :: rest.filter (·.cont == b.cont) = [a] := by
    simpa [pendingOn, he] using ha
  obtain ⟨rfl, hrest⟩ := List.cons.inj hpend
  refine ⟨rfl, ?_⟩
  simp only [pendingOn, hq, Action.firing_cont]
  unfold Queue.afterFiring
  cases hk : b.kind with
  | once => exact hrest
  | every =>
    have hp := Queue.filter_insert_perm (p := (·.cont == b.cont))
      (a := { b with due := Queue.nextDue b t false }) (by simp) rest
    rw [hrest] at hp
    simpa [Queue.nextDue, hk] using List.perm_singleton.mp hp

theorem takeDue_aside {k k' : Clock} {t : Time} {f : Firing} (h : k.takeDue t = some (f, k'))
    {c : Nat} (hc : c ≠ f.cont) : Aside c k k' := by
  obtain ⟨a, rest, he, -, rfl, hq, -, -⟩ := takeDue_cases h
  refine ⟨?_, isDestroyed_congr (takeDue_destroyed h) c⟩
  have ha : (a.cont == c) = false := by simpa using Ne.symm hc
  simp only [pendingOn, hq, he, List.filter_cons, ha]
  unfold Queue.afterFiring
  cases a.kind with
  | once => simp
  | every => exact Queue.filter_insert_of_not (by simpa using ha) rest

end Clock

end HostDispatch
