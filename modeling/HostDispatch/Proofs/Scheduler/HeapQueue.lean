import HostDispatch.Proofs.Scheduler.Representation

/-!
# The heap holds the sorted queue

`Queue` keeps the pending actions as a list sorted in firing order; the timer queue keeps them in
a heap of ids whose records hold the actions. `TimerQueue.Represents q Q` says that the heap `q`
holds exactly the actions of the sorted list `Q`, with the representation invariant and the same
last id. Every operation of the timer queue keeps the relation with the same operation of the list
and answers as it does: arming hands out the same id, canceling succeeds for the same actions and
takes the same one out, taking a due action takes the same firing (the root is the head of the
sorted list), and dropping all counts the same actions. Main statements: `Represents.arm`,
`Represents.cancel`, `Represents.popDue` and `Represents.dropAll`.
-/

namespace HostDispatch

namespace TimerQueue

variable {q : TimerQueue} {Q : Queue}

/-- The actions in the heap, in heap order. -/
def actions (q : TimerQueue) : List Action := q.heap.map fun x => (q.slots x).action

theorem mem_actions {a : Action} : a ∈ q.actions ↔ ∃ x ∈ q.heap, (q.slots x).action = a := by
  simp [actions]

theorem Inv.id_of_mem (hq : q.Inv) {x : Nat} (hx : x ∈ q.heap) : (q.slots x).action.id = x :=
  hq.ids x (hq.armed x hx).1 (hq.armed x hx).2

/-- The ids of the actions in the heap are the heap. -/
theorem Inv.actions_ids (hq : q.Inv) : q.actions.map (·.id) = q.heap := by
  rw [actions, List.map_map]
  conv_rhs => rw [← List.map_id q.heap]
  exact List.map_congr_left fun x hx => hq.id_of_mem hx

/-- Whether an action is pending is told alike by its state, by its position and by the heap. -/
theorem Inv.pending_iff (hq : q.Inv) (x : Nat) :
    ((q.slots x).state = .pending ↔ x ∈ q.heap) ∧ (0 ≤ (q.slots x).index ↔ x ∈ q.heap) := by
  by_cases hx : x ∈ q.heap
  · obtain ⟨k, hk, rfl⟩ := mem_heap_iff.1 hx
    obtain ⟨hidx, hst⟩ := hq.placed k hk
    exact ⟨iff_of_true hst hx, iff_of_true (by omega) hx⟩
  · obtain ⟨hidx, hst⟩ := hq.retired x hx
    refine ⟨iff_of_false ?_ hx, iff_of_false (by omega) hx⟩
    rcases hst with ⟨h, -⟩ | h <;> rw [h] <;> decide

/-- No action of a heap fires before its root. -/
theorem Ordered.root_first (ho : q.Ordered q.heap.length) :
    ∀ k < q.heap.length, ¬ (q.actionAt k).before (q.actionAt 0) := by
  intro k
  induction k using Nat.strongRecOn with
  | ind k ih =>
    intro hk
    by_cases hk0 : k = 0
    · subst hk0
      simp [Action.before_irrefl]
    · have hp := parent_lt hk0
      exact Action.not_before_trans (ho k (by omega) hk) (ih (parent k) hp (by omega))

/-- Canceling an action in the heap reads its position from its record, takes it off there and
marks it canceled. -/
theorem Inv.cancel_some (hq : q.Inv) {id : Nat} (hid : id ∈ q.heap) :
    ∃ i < q.heap.length, q.idAt i = id ∧
      q.cancel (some id) = some ((q.remove i).modify id fun s => { s with state := .canceled }) := by
  obtain ⟨i, hi, rfl⟩ := mem_heap_iff.1 hid
  obtain ⟨hidx, hst⟩ := hq.placed i hi
  refine ⟨i, hi, rfl, ?_⟩
  simp only [TimerQueue.cancel, hidx, hst]
  simp

/-- Arming, canceling and taking a due action keep whether missed firings are skipped. -/
theorem Inv.arm_skipMissed (hq : q.Inv) (cont : Nat) (kind : Kind) (d : Int) (now : Time) :
    (q.arm cont kind d now).2.skipMissed = q.skipMissed :=
  (hq.adds_arm cont kind d now).skipMissed

theorem Inv.cancel_skipMissed (hq : q.Inv) {a : Option Nat} {q' : TimerQueue}
    (h : q.cancel a = some q') : q'.skipMissed = q.skipMissed := by
  obtain ⟨id, rfl, -, hidx, -⟩ := cancel_eq_some h
  obtain ⟨i, hi, rfl, hc⟩ := hq.cancel_some (((hq.pending_iff id).2).1 hidx)
  rw [h] at hc
  rw [Option.some.inj hc, modify_skipMissed]
  exact (removes_remove hq.placed hq.ordered hi).skipMissed

theorem Inv.popDue_skipMissed (hq : q.Inv) {limit : Time} {f : Firing} {q' : TimerQueue}
    (h : q.popDue limit = some (f, q')) : q'.skipMissed = q.skipMissed := by
  obtain ⟨r, rest, hh, -, -, ⟨-, rfl⟩ | ⟨-, rfl⟩⟩ := popDue_eq_some h
  · rw [modify_skipMissed]
    exact (removes_pop hq.placed hq.ordered (by simp [hh])).skipMissed
  · exact (reorders_fix_root hq.placed hq.ordered hh _).1.skipMissed

theorem popDue_eq_none {limit : Time} :
    q.popDue limit = none ↔ ∀ r ∈ q.heap.head?, limit.ns < (q.slots r).action.due.ns := by
  unfold popDue
  split
  · simp_all
  · dsimp only
    split
    · simp_all [Time.after]
    · split <;> simp_all [Time.after]

/-! ## The relation -/

/-- The heap `q` holds the sorted queue `Q`: `q` has the representation invariant, `Q` is sorted
in firing order, the two hold the same actions and they have handed out the same ids. -/
structure Represents (q : TimerQueue) (Q : Queue) : Prop where
  inv : q.Inv
  sorted : Q.entries.Pairwise (·.before ·)
  mem : ∀ a, a ∈ Q.entries ↔ a ∈ q.actions
  lastId : Q.lastId = q.lastId

theorem represents_empty (skipMissed : Bool) : (empty skipMissed).Represents {} where
  inv := inv_empty skipMissed
  sorted := List.Pairwise.nil
  mem _ := by simp [actions, empty]
  lastId := rfl

namespace Represents

theorem nodup (h : q.Represents Q) : Q.entries.Nodup :=
  h.sorted.imp fun {a b} hab e => by
    subst e
    simp [Action.before_irrefl] at hab

/-- The sorted queue is the heap's actions in another order. -/
theorem perm (h : q.Represents Q) : Q.entries.Perm q.actions := by
  have hn : q.actions.Nodup := by
    refine List.Nodup.of_map (·.id) ?_
    rw [h.inv.actions_ids]
    exact h.inv.placed.nodup
  exact (List.perm_ext_iff_of_nodup h.nodup hn).2 h.mem

/-- The sorted queue is well formed. -/
theorem wf (h : q.Represents Q) : Q.Wf where
  sorted := h.sorted
  nodup := by
    rw [(h.perm.map (·.id)).nodup_iff, h.inv.actions_ids]
    exact h.inv.placed.nodup
  le_lastId a ha := by
    obtain ⟨x, hx, rfl⟩ := mem_actions.1 ((h.mem a).1 ha)
    rw [h.inv.id_of_mem hx, h.lastId]
    exact (h.inv.armed x hx).2

theorem mem_iff (h : q.Represents Q) {a : Action} :
    a ∈ Q.entries ↔ ∃ x ∈ q.heap, (q.slots x).action = a :=
  (h.mem a).trans mem_actions

/-- An action of the queue has the id of one in the heap, and the other way. -/
theorem mem_ids (h : q.Represents Q) (id : Nat) : (∃ a ∈ Q.entries, a.id = id) ↔ id ∈ q.heap := by
  constructor
  · rintro ⟨a, ha, rfl⟩
    obtain ⟨x, hx, rfl⟩ := h.mem_iff.1 ha
    rw [h.inv.id_of_mem hx]
    exact hx
  · intro hid
    exact ⟨_, h.mem_iff.2 ⟨id, hid, rfl⟩, h.inv.id_of_mem hid⟩

theorem size_eq (h : q.Represents Q) : q.size = Q.size := by
  rw [size, Queue.size, h.perm.length_eq, actions, List.length_map]

/-- The head of the sorted queue is the root's action: nothing in the heap fires before the root,
and the head fires before everything else. -/
theorem entries_eq (h : q.Represents Q) {r : Nat} {rest : List Nat} (hh : q.heap = r :: rest) :
    ∃ rest', Q.entries = (q.slots r).action :: rest' := by
  have hr0 : q.idAt 0 = r := by simp [idAt, hh]
  have hroot : (q.slots r).action ∈ Q.entries := h.mem_iff.2 ⟨r, by simp [hh], rfl⟩
  cases he : Q.entries with
  | nil => simp [he] at hroot
  | cons b rest' =>
    refine ⟨rest', ?_⟩
    rw [he] at hroot
    obtain ⟨x, hx, rfl⟩ := h.mem_iff.1 (show b ∈ Q.entries by simp [he])
    rcases List.mem_cons.1 hroot with hb | hroot'
    · rw [hb]
    · -- the head fires before the root's action, yet no action of the heap fires before the root
      have hbefore := Queue.head_before (he ▸ h.sorted) _ hroot'
      obtain ⟨k, hk, rfl⟩ := mem_heap_iff.1 hx
      have := h.inv.ordered.root_first k hk
      rw [actionAt, actionAt, hr0] at this
      exact absurd hbefore this

theorem entries_eq_nil (h : q.Represents Q) (hh : q.heap = []) : Q.entries = [] :=
  List.eq_nil_iff_forall_not_mem.2 fun a ha => by
    obtain ⟨x, hx, -⟩ := h.mem_iff.1 ha
    simp [hh] at hx

theorem peek_eq (h : q.Represents Q) : q.peek = Q.peek := by
  cases hh : q.heap with
  | nil => simp [peek, Queue.peek, hh, h.entries_eq_nil hh]
  | cons r rest =>
    obtain ⟨rest', he⟩ := h.entries_eq hh
    simp [peek, Queue.peek, hh, he]

/-- The actions after the head of the sorted queue are those of the rest of the heap. -/
theorem mem_rest (h : q.Represents Q) {r : Nat} {rest : List Nat} {rest' : List Action}
    (hh : q.heap = r :: rest) (he : Q.entries = (q.slots r).action :: rest') {a : Action} :
    a ∈ rest' ↔ ∃ x ∈ q.heap, x ≠ r ∧ (q.slots x).action = a := by
  have hrm : r ∈ q.heap := by simp [hh]
  have hnd := h.nodup
  rw [he, List.nodup_cons] at hnd
  constructor
  · intro ha
    obtain ⟨x, hx, rfl⟩ := h.mem_iff.1 (show a ∈ Q.entries by simp [he, ha])
    refine ⟨x, hx, fun hxr => hnd.1 ?_, rfl⟩
    rw [← hxr]
    exact ha
  · rintro ⟨x, hx, hxr, rfl⟩
    have hmem := h.mem_iff.2 ⟨x, hx, rfl⟩
    rw [he] at hmem
    refine (List.mem_cons.1 hmem).resolve_left fun hxa => hxr ?_
    rw [← h.inv.id_of_mem hx, hxa, h.inv.id_of_mem hrm]

/-! ## Each operation -/

/-- Arming hands out the same id and adds the same action to both. -/
theorem arm (h : q.Represents Q) (cont : Nat) (kind : Kind) (d : Int) (now : Time) :
    (q.arm cont kind d now).1 = (Q.arm cont kind d now).1 ∧
      (q.arm cont kind d now).2.Represents (Q.arm cont kind d now).2 := by
  have hadd := h.inv.adds_arm cont kind d now
  have ha : Q.armed cont kind d now = q.armed cont kind d now := by
    simp only [Queue.armed, TimerQueue.armed, h.lastId]
  have hfresh : ∀ x ∈ q.heap, x ≠ q.lastId + 1 := fun x hx e => by
    have := (h.inv.armed x hx).2
    omega
  rw [Queue.arm_eq, arm_eq]
  refine ⟨by rw [h.lastId], ?_⟩
  rw [← arm_eq]
  refine ⟨h.inv.arm cont kind d now, ?_, fun a => ?_, by rw [hadd.lastId]; simp [withRecord, h.lastId]⟩
  · refine Queue.insert_sorted h.sorted fun b hb e => ?_
    have := h.wf.le_lastId b hb
    simp only [Queue.armed] at e
    omega
  · rw [Queue.mem_insert, h.mem_iff, mem_actions, ha]
    constructor
    · rintro (rfl | ⟨x, hx, rfl⟩)
      · refine ⟨q.lastId + 1, (hadd.mem _).2 (.inr rfl), ?_⟩
        rw [hadd.action, withRecord_slots, if_pos rfl]
      · refine ⟨x, (hadd.mem x).2 (.inl hx), ?_⟩
        rw [hadd.action, withRecord_slots, if_neg (hfresh x hx)]
    · rintro ⟨x, hx, rfl⟩
      rw [hadd.action, withRecord_slots]
      split_ifs with hxn
      · exact .inl rfl
      · exact .inr ⟨x, ((hadd.mem x).1 hx).resolve_right hxn, rfl⟩

theorem cancel_none (h : q.Represents Q) {id : Nat} (hid : id ∉ q.heap) :
    q.cancel (some id) = none ∧ Q.cancel id = none := by
  have hidx : ¬ 0 ≤ (q.slots id).index := fun h' => hid (((h.inv.pending_iff id).2).1 h')
  refine ⟨?_, Queue.cancel_eq_none.2 fun a ha e => hid ((h.mem_ids id).1 ⟨a, ha, e⟩)⟩
  simp only [TimerQueue.cancel]
  rw [if_pos (.inr (by omega))]

/-- Canceling succeeds in both for the same actions, those pending, and takes the same one out. -/
theorem cancel (h : q.Represents Q) (a : Option Nat) :
    Option.Rel Represents (q.cancel a) (a.bind Q.cancel) := by
  cases a with
  | none => exact .none
  | some id =>
    by_cases hid : id ∈ q.heap
    · obtain ⟨k, hk, rfl, hq⟩ := h.inv.cancel_some hid
      have hrem := removes_remove h.inv.placed h.inv.ordered hk
      have hQ := Queue.cancel_eq_some.2 ⟨(h.mem_ids _).2 hid, rfl⟩
      rw [hq, Option.bind_some, hQ]
      refine .some ⟨h.inv.cancel hq, h.sorted.filter _, fun b => ?_, by
        rw [modify_lastId, hrem.lastId]; exact h.lastId⟩
      simp only [List.mem_filter, h.mem_iff, mem_actions, modify_heap, modify_slots, hrem.mem,
        bne_iff_ne, ne_eq]
      constructor
      · rintro ⟨⟨x, hx, rfl⟩, hne⟩
        have hxk : x ≠ q.idAt k := fun e => hne (by rw [e, h.inv.id_of_mem hid])
        refine ⟨x, ⟨hx, hxk⟩, ?_⟩
        rw [if_neg hxk, hrem.action]
      · rintro ⟨x, ⟨hx, hxk⟩, rfl⟩
        rw [if_neg hxk, hrem.action, h.inv.id_of_mem hx]
        exact ⟨⟨x, hx, rfl⟩, hxk⟩
    · obtain ⟨hq, hQ⟩ := h.cancel_none hid
      rw [hq, Option.bind_some, hQ]
      exact .none

/-- A one-shot root that fires leaves the heap, and its action leaves the list. -/
theorem popDue_once (h : q.Represents Q) {limit : Time} {f : Firing} {r : Nat} {rest : List Nat}
    {rest' : List Action} (hh : q.heap = r :: rest) (he : Q.entries = (q.slots r).action :: rest')
    (hk : (q.slots r).action.kind = .once)
    (hp : q.popDue limit = some (f, q.pop.modify r fun s => { s with state := .fired })) :
    (q.pop.modify r fun s => { s with state := .fired }).Represents
      { Q with entries := Queue.afterFiring (q.slots r).action rest' limit q.skipMissed } := by
  have hr0 : q.idAt 0 = r := by simp [idAt, hh]
  have hrest := (List.pairwise_cons.1 (he ▸ h.sorted)).2
  have hrem := removes_pop h.inv.placed h.inv.ordered (by simp [hh])
  rw [hr0] at hrem
  have haf : Queue.afterFiring (q.slots r).action rest' limit q.skipMissed = rest' := by
    simp [Queue.afterFiring, hk]
  refine ⟨h.inv.popDue hp, by rw [haf]; exact hrest, fun a => ?_,
    by rw [modify_lastId, hrem.lastId]; exact h.lastId⟩
  have hact : ∀ x, ((q.pop.modify r fun s => { s with state := .fired }).slots x).action =
      (q.slots x).action := fun x => by
    rw [modify_slots]
    split_ifs <;> exact hrem.action x
  simp only [haf, h.mem_rest hh he, mem_actions, modify_heap, hrem.mem, hact, and_assoc]

/-- A repeating root that fires moves to its next due time, in the heap and in the list. -/
theorem popDue_every (h : q.Represents Q) {limit : Time} {f : Firing} {r : Nat} {rest : List Nat}
    {rest' : List Action} (hh : q.heap = r :: rest) (he : Q.entries = (q.slots r).action :: rest')
    (hk : (q.slots r).action.kind = .every)
    (hp : q.popDue limit = some (f, (q.setDue r (Queue.nextDue (q.slots r).action limit
      q.skipMissed)).fix (q.slots r).index.toNat)) :
    ((q.setDue r (Queue.nextDue (q.slots r).action limit q.skipMissed)).fix
        (q.slots r).index.toNat).Represents
      { Q with entries := Queue.afterFiring (q.slots r).action rest' limit q.skipMissed } := by
  have hrm : r ∈ q.heap := by simp [hh]
  have hrest := (List.pairwise_cons.1 (he ▸ h.sorted)).2
  obtain ⟨hre, -⟩ := reorders_fix_root h.inv.placed h.inv.ordered hh
    (Queue.nextDue (q.slots r).action limit q.skipMissed)
  have haf : Queue.afterFiring (q.slots r).action rest' limit q.skipMissed =
      Queue.insert { (q.slots r).action with
        due := Queue.nextDue (q.slots r).action limit q.skipMissed } rest' := by
    simp [Queue.afterFiring, hk]
  have hfresh : ∀ b ∈ rest', b.id ≠ (q.slots r).action.id := by
    intro b hb e
    obtain ⟨x, hx, hxr, rfl⟩ := (h.mem_rest hh he).1 hb
    rw [h.inv.id_of_mem hx, h.inv.id_of_mem hrm] at e
    exact hxr e
  refine ⟨h.inv.popDue hp, by rw [haf]; exact Queue.insert_sorted hrest hfresh, fun a => ?_,
    by rw [hre.lastId, setDue_lastId]; exact h.lastId⟩
  rw [haf, Queue.mem_insert, h.mem_rest hh he, mem_actions]
  simp only [hre.mem, hre.action, setDue_heap, setDue_slots]
  constructor
  · rintro (rfl | ⟨x, hx, hxr, rfl⟩)
    · exact ⟨r, hrm, by rw [if_pos rfl]⟩
    · exact ⟨x, hx, by rw [if_neg hxr]⟩
  · rintro ⟨x, hx, e⟩
    by_cases hxr : x = r
    · rw [if_pos hxr] at e
      subst hxr
      exact .inl e.symm
    · rw [if_neg hxr] at e
      exact .inr ⟨x, hx, hxr, e⟩

/-- Taking a due action takes the same firing from both, and what is left still corresponds. -/
theorem popDue (h : q.Represents Q) (limit : Time) :
    Option.Rel (fun x y => x.1 = y.1 ∧ x.2.Represents y.2)
      (q.popDue limit) (Q.popDue limit q.skipMissed) := by
  cases hh : q.heap with
  | nil =>
    have hq : q.popDue limit = none := by simp [TimerQueue.popDue, hh]
    rw [hq, Queue.popDue_eq_none.2 (by simp [h.entries_eq_nil hh])]
    exact .none
  | cons r rest =>
    obtain ⟨rest', he⟩ := h.entries_eq hh
    rw [Queue.popDue_of_entries_eq he]
    cases hp : q.popDue limit with
    | none =>
      have hdue := popDue_eq_none.1 hp
      simp only [hh, List.head?_cons, Option.mem_def, Option.some.injEq, forall_eq'] at hdue
      rw [if_pos (by simpa [Time.after] using hdue)]
      exact .none
    | some p =>
      obtain ⟨f, q'⟩ := p
      obtain ⟨r', rest₂, hh', hle, rfl, hcase⟩ := popDue_eq_some hp
      obtain ⟨rfl, -⟩ := List.cons.inj (hh.symm.trans hh')
      rw [if_neg (by simp [Time.after]; omega)]
      rcases hcase with ⟨hk, rfl⟩ | ⟨hk, rfl⟩
      · exact .some ⟨rfl, h.popDue_once hh he hk hp⟩
      · exact .some ⟨rfl, h.popDue_every hh he hk hp⟩

/-- Dropping all counts the same actions and leaves both empty. -/
theorem dropAll (h : q.Represents Q) :
    q.dropAll.1 = Q.dropAll.1 ∧ q.dropAll.2.Represents Q.dropAll.2 := by
  refine ⟨h.size_eq, h.inv.dropAll, List.Pairwise.nil, fun a => ?_,
    h.lastId.trans (dropAll_lastId q).symm⟩
  simp [Queue.dropAll, actions]

end Represents

end TimerQueue

end HostDispatch
