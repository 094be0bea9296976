import Mathlib.Data.List.Sort
import HostDispatch.Scheduler.Queue

/-!
# Firing order and well-formed queues

Pending actions fire by due instant, then by id. On actions with distinct ids this order is strict
and total, so a queue kept sorted by it has the action to fire next at its head. A queue is well
formed when it is sorted, its ids are distinct and none is above the last id handed out. Arming,
canceling and taking the head keep a queue well formed; each of the three has one lemma here that
says exactly what it does to the entries, so that later proofs never unfold the queue.
-/

namespace HostDispatch

namespace Action

theorem before_irrefl (a : Action) : a.before a = false := by
  simp [before]

theorem before_trans {a b c : Action} (hab : a.before b) (hbc : b.before c) : a.before c := by
  simp only [before, Bool.or_eq_true, decide_eq_true_eq, Bool.and_eq_true, beq_iff_eq] at *
  omega

theorem not_before_of_before {a b : Action} (h : a.before b) : b.before a = false := by
  simp only [before, Bool.or_eq_true, decide_eq_true_eq, Bool.and_eq_true, beq_iff_eq] at h
  simp only [before, Bool.or_eq_false_iff, decide_eq_false_iff_not, Bool.and_eq_false_imp,
    beq_iff_eq]
  omega

/-- Two actions with different ids are always ordered one way or the other. -/
theorem before_total {a b : Action} (h : a.id ≠ b.id) : a.before b ∨ b.before a := by
  simp only [before, Bool.or_eq_true, decide_eq_true_eq, Bool.and_eq_true, beq_iff_eq]
  omega

/-- The firing a queue hands out for an action. -/
def firing (a : Action) : Firing := { action := a.id, cont := a.cont, kind := a.kind, due := a.due }

@[simp] theorem firing_action (a : Action) : a.firing.action = a.id := rfl
@[simp] theorem firing_cont (a : Action) : a.firing.cont = a.cont := rfl
@[simp] theorem firing_kind (a : Action) : a.firing.kind = a.kind := rfl
@[simp] theorem firing_due (a : Action) : a.firing.due = a.due := rfl

end Action

/-- `f` fires before `g`: it is due earlier, or as early with a smaller action id. -/
def Firing.Before (f g : Firing) : Prop :=
  f.due.ns < g.due.ns ∨ (f.due.ns = g.due.ns ∧ f.action < g.action)

theorem Firing.Before.trans {f g h : Firing} (hfg : f.Before g) (hgh : g.Before h) :
    f.Before h := by
  unfold Firing.Before at *
  omega

/-- The order of actions is the order of the firings they hand out. -/
theorem Action.before_iff {a b : Action} : a.before b = true ↔ a.firing.Before b.firing := by
  simp only [before, Bool.or_eq_true, decide_eq_true_eq, Bool.and_eq_true, beq_iff_eq,
    Firing.Before, firing_due, firing_action]

namespace Queue

/-- Inserting is Mathlib's insertion into a sorted list, for the firing order. -/
theorem insert_eq_orderedInsert (a : Action) (l : List Action) :
    insert a l = l.orderedInsert (fun x y => x.before y = true) a := by
  induction l with
  | nil => rfl
  | cons b l ih => simp [insert, ih]

theorem insert_perm (a : Action) (l : List Action) : (insert a l).Perm (a :: l) := by
  rw [insert_eq_orderedInsert]
  exact List.perm_orderedInsert _ a l

@[simp] theorem mem_insert {a b : Action} {l : List Action} :
    b ∈ insert a l ↔ b = a ∨ b ∈ l :=
  (insert_perm a l).mem_iff.trans List.mem_cons

@[simp] theorem length_insert (a : Action) (l : List Action) :
    (insert a l).length = l.length + 1 :=
  (insert_perm a l).length_eq

/-- Inserting an action whose id is new keeps a list sorted. -/
theorem insert_sorted {a : Action} {l : List Action} (hl : l.Pairwise (·.before ·))
    (ha : ∀ b ∈ l, b.id ≠ a.id) : (insert a l).Pairwise (·.before ·) := by
  induction l with
  | nil => simp [insert]
  | cons b l ih =>
    obtain ⟨hb, hl⟩ := List.pairwise_cons.mp hl
    have hab : a.id ≠ b.id := fun h => ha b (by simp) h.symm
    by_cases hbefore : a.before b
    · simp only [insert, hbefore, if_true]
      refine List.Pairwise.cons ?_ (List.Pairwise.cons hb hl)
      intro c hc
      rcases List.mem_cons.mp hc with rfl | hc
      · exact hbefore
      · exact Action.before_trans hbefore (hb c hc)
    · simp only [insert, hbefore]
      refine List.Pairwise.cons ?_ (ih hl fun c hc => ha c (by simp [hc]))
      intro c hc
      rcases mem_insert.mp hc with rfl | hc
      · exact (Action.before_total hab).resolve_left hbefore
      · exact hb c hc

/-- A well-formed queue: sorted in firing order, with distinct ids, none above the last one handed
out. -/
structure Wf (q : Queue) : Prop where
  sorted : q.entries.Pairwise (·.before ·)
  nodup : (q.entries.map (·.id)).Nodup
  le_lastId : ∀ a ∈ q.entries, a.id ≤ q.lastId

/-- The queue with no pending action is well formed. -/
theorem wf_empty (n : Nat) : Wf { entries := [], lastId := n } :=
  ⟨List.Pairwise.nil, List.nodup_nil, by simp⟩

/-- The head of a sorted queue fires before every other pending action. -/
theorem head_before {a : Action} {rest : List Action} (h : (a :: rest).Pairwise (·.before ·)) :
    ∀ b ∈ rest, a.before b :=
  (List.pairwise_cons.mp h).1

/-! ## Arming -/

/-- The action `arm` makes: the next id, due a duration after `now`. -/
def armed (q : Queue) (cont : Nat) (kind : Kind) (d : Int) (now : Time) : Action :=
  { id := q.lastId + 1, cont := cont, kind := kind,
    period := if kind = .every then d else 0, due := now.add d }

theorem arm_eq (q : Queue) (cont : Nat) (kind : Kind) (d : Int) (now : Time) :
    q.arm cont kind d now =
      (q.lastId + 1, { entries := insert (q.armed cont kind d now) q.entries,
                       lastId := q.lastId + 1 }) := rfl

theorem arm_wf {q : Queue} (hq : q.Wf) (cont : Nat) (kind : Kind) (d : Int) (now : Time) :
    (q.arm cont kind d now).2.Wf := by
  rw [arm_eq]
  have hfresh : ∀ b ∈ q.entries, b.id ≠ (q.armed cont kind d now).id := by
    intro b hb h
    have := hq.le_lastId b hb
    simp only [armed] at h
    omega
  refine ⟨insert_sorted hq.sorted hfresh, ?_, ?_⟩
  · refine ((insert_perm _ _).map (·.id)).nodup_iff.mpr ?_
    refine List.nodup_cons.mpr ⟨?_, hq.nodup⟩
    simp only [List.mem_map, not_exists, not_and]
    exact fun b hb => hfresh b hb
  · intro b hb
    rcases mem_insert.mp hb with rfl | hb
    · simp [armed]
    · exact Nat.le_succ_of_le (hq.le_lastId b hb)

/-! ## Canceling -/

theorem cancel_eq_some {q q' : Queue} {id : Nat} :
    q.cancel id = some q' ↔
      (∃ a ∈ q.entries, a.id = id) ∧
        q' = { q with entries := q.entries.filter (·.id != id) } := by
  unfold cancel pending
  by_cases h : q.entries.any (·.id == id)
  · have hmem : ∃ a ∈ q.entries, a.id = id := by simpa using h
    simp only [h, if_true, Option.some.injEq]
    exact ⟨fun e => ⟨hmem, e.symm⟩, fun ⟨_, e⟩ => e.symm⟩
  · have hmem : ¬∃ a ∈ q.entries, a.id = id := by simpa using h
    simp only [h, Bool.false_eq_true, if_false, reduceCtorEq, false_iff]
    exact fun ⟨hm, _⟩ => hmem hm

theorem cancel_eq_none {q : Queue} {id : Nat} :
    q.cancel id = none ↔ ∀ a ∈ q.entries, a.id ≠ id := by
  unfold cancel pending
  by_cases h : q.entries.any (·.id == id)
  · simp only [h, if_true, reduceCtorEq, false_iff]
    simpa using h
  · simp only [h, Bool.false_eq_true, if_false, true_iff]
    simpa using h

theorem cancel_wf {q q' : Queue} {id : Nat} (hq : q.Wf) (h : q.cancel id = some q') : q'.Wf := by
  obtain ⟨-, rfl⟩ := cancel_eq_some.mp h
  refine ⟨hq.sorted.filter _, ?_, fun a ha => hq.le_lastId a (List.mem_of_mem_filter ha)⟩
  exact hq.nodup.sublist ((List.filter_sublist).map _)

/-! ## Taking the head -/

/-- Where a repeating action goes after it fires: one period on, or one period past the limit
when that is still not after it and missed periods are skipped. -/
def nextDue (a : Action) (limit : Time) (skipMissed : Bool) : Time :=
  if skipMissed && !(a.due.add a.period).after limit then limit.add a.period
  else a.due.add a.period

/-- What is left after the head fired: the rest for a one-shot action, and the action one period
on, back in its place, for a repeating one. -/
def afterFiring (a : Action) (rest : List Action) (limit : Time) (skipMissed : Bool) :
    List Action :=
  match a.kind with
  | .once => rest
  | .every => insert { a with due := nextDue a limit skipMissed } rest

theorem popDue_of_entries_eq {q : Queue} {a : Action} {rest : List Action}
    (h : q.entries = a :: rest) (limit : Time) (skipMissed : Bool) :
    q.popDue limit skipMissed =
      if a.due.after limit then none
      else some (a.firing, { q with entries := afterFiring a rest limit skipMissed }) := by
  unfold popDue afterFiring
  rw [h]
  obtain ⟨id, cont, kind, period, due⟩ := a
  cases kind <;> rfl

theorem popDue_eq_some {q : Queue} {limit : Time} {skipMissed : Bool} {f : Firing} {q' : Queue} :
    q.popDue limit skipMissed = some (f, q') ↔
      ∃ a rest, q.entries = a :: rest ∧ a.due.ns ≤ limit.ns ∧ f = a.firing ∧
        q' = { q with entries := afterFiring a rest limit skipMissed } := by
  constructor
  · intro hp
    cases hq : q.entries with
    | nil => simp [popDue, hq] at hp
    | cons a rest =>
      rw [popDue_of_entries_eq hq] at hp
      split at hp
      · cases hp
      · rename_i hdue
        obtain ⟨rfl, rfl⟩ := Prod.mk.inj (Option.some.inj hp)
        exact ⟨a, rest, rfl, by simpa [Time.after] using hdue, rfl, rfl⟩
  · rintro ⟨a, rest, hq, hle, rfl, rfl⟩
    rw [popDue_of_entries_eq hq, if_neg (by simp [Time.after]; omega)]

theorem popDue_eq_none {q : Queue} {limit : Time} {skipMissed : Bool} :
    q.popDue limit skipMissed = none ↔ ∀ a ∈ q.entries.head?, limit.ns < a.due.ns := by
  cases hq : q.entries with
  | nil => simp [popDue, hq]
  | cons a rest =>
    rw [popDue_of_entries_eq hq]
    split <;> simp_all [Time.after]

theorem mem_afterFiring {a b : Action} {rest : List Action} {limit : Time} {skipMissed : Bool} :
    b ∈ afterFiring a rest limit skipMissed ↔
      b ∈ rest ∨ (a.kind = .every ∧ b = { a with due := nextDue a limit skipMissed }) := by
  unfold afterFiring
  cases a.kind <;> simp [or_comm]

/-- When nothing is due by a limit, nothing pending in a well-formed queue is due by it. -/
theorem lt_due_of_popDue_eq_none {q : Queue} {limit : Time} {skipMissed : Bool} (hq : q.Wf)
    (h : q.popDue limit skipMissed = none) : ∀ b ∈ q.entries, limit.ns < b.due.ns := by
  have hhead := popDue_eq_none.mp h
  have hs := hq.sorted
  intro b hb
  cases hq' : q.entries with
  | nil => simp [hq'] at hb
  | cons a rest =>
    rw [hq'] at hb hhead hs
    have ha : limit.ns < a.due.ns := hhead a rfl
    rcases List.mem_cons.mp hb with rfl | hb
    · exact ha
    · have hab := (Action.before_iff.mp (head_before hs b hb))
      unfold Firing.Before at hab
      simp only [Action.firing_due] at hab
      omega

/-- What is left after the head of a well-formed queue fired is well formed. -/
theorem afterFiring_wf {q : Queue} {a : Action} {rest : List Action} (hq : q.Wf)
    (he : q.entries = a :: rest) (limit : Time) (skipMissed : Bool) :
    Wf { q with entries := afterFiring a rest limit skipMissed } := by
  have hs := hq.sorted
  have hn := hq.nodup
  have hl := hq.le_lastId
  rw [he] at hs hn hl
  obtain ⟨-, hrest⟩ := List.pairwise_cons.mp hs
  rw [List.map_cons, List.nodup_cons] at hn
  obtain ⟨hnew, hnrest⟩ := hn
  unfold afterFiring
  cases a.kind with
  | once => exact ⟨hrest, hnrest, fun b hb => hl b (List.mem_cons_of_mem a hb)⟩
  | every =>
    have hfresh : ∀ b ∈ rest, b.id ≠ a.id := fun b hb h => hnew (h ▸ List.mem_map_of_mem hb)
    refine ⟨insert_sorted hrest hfresh, ?_, ?_⟩
    · refine ((insert_perm _ _).map (·.id)).nodup_iff.mpr ?_
      exact List.nodup_cons.mpr ⟨hnew, hnrest⟩
    · intro b hb
      rcases mem_insert.mp hb with rfl | hb
      · exact hl a (by simp)
      · exact hl b (List.mem_cons_of_mem a hb)

theorem popDue_wf {q q' : Queue} {limit : Time} {skipMissed : Bool} {f : Firing} (hq : q.Wf)
    (h : q.popDue limit skipMissed = some (f, q')) : q'.Wf := by
  obtain ⟨a, rest, he, -, -, rfl⟩ := popDue_eq_some.mp h
  exact afterFiring_wf hq he limit skipMissed

end Queue

end HostDispatch
