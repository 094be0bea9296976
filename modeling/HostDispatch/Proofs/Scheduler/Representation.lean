import HostDispatch.Proofs.Scheduler.Sift

/-!
# The timer queue's representation invariant

Every state the timer queue reaches from the empty queue, by any sequence of arming, canceling,
taking due actions (skipping missed firings or not) and dropping all, satisfies `Inv`:

* the heap is a min-heap in firing order, by due instant and then id;
* the record of the id at each position says that position and that the action is pending;
* every action out of the heap has no position, and was either fired (a one-shot action) or
  canceled;
* the record of the `k`-th armed action carries id `k`, and the heap holds armed ids only.

Taking a due action never takes a repeating one off the heap: it stays there, pending, one period
on. Each operation is taken apart into the heap steps of `Sift` and two more: taking the last
position off the heap (`popLast`), which with the swaps before it takes one action off the heap and
leaves the rest in order (`Removes`), and changing records by id.
-/

namespace HostDispatch

/-- What the record of an action out of the heap says: no position, and fired (a one-shot action)
or canceled. -/
def Slot.Retired (s : Slot) : Prop :=
  s.index = -1 ∧ (s.state = .fired ∧ s.action.kind = .once ∨ s.state = .canceled)

namespace TimerQueue

variable {q : TimerQueue} {i k m n : Nat}

/-! ## Changing records -/

theorem actionAt_modify (q : TimerQueue) (id : Nat) (f : Slot → Slot) (k : Nat) :
    (q.modify id f).actionAt k =
      if q.idAt k = id then (f (q.slots id)).action else q.actionAt k := by
  unfold actionAt
  rw [modify_idAt, modify_slots]
  split_ifs with h
  · rw [h]
  · rfl

/-- Changing the record of an action out of the heap keeps the back-pointers. -/
theorem Placed.modify_of_not_mem (hp : q.Placed) {id : Nat} (hid : id ∉ q.heap)
    (f : Slot → Slot) : (q.modify id f).Placed := by
  intro k hk
  have hne : q.idAt k ≠ id := fun h => hid (h ▸ idAt_mem hk)
  simpa [hne] using hp k hk

/-! ## Taking the last position off the heap -/

theorem popLast_slots (q : TimerQueue) (x : Nat) :
    q.popLast.slots x =
      if x = q.idAt (q.heap.length - 1) then { q.slots x with index := -1 } else q.slots x := rfl

@[simp] theorem popLast_heap_length (q : TimerQueue) :
    q.popLast.heap.length = q.heap.length - 1 := by
  simp [popLast]

theorem idAt_popLast (hk : k < q.heap.length - 1) : q.popLast.idAt k = q.idAt k := by
  have hk' : k < q.heap.length := by omega
  simp [popLast, idAt, hk, hk']

theorem actionAt_popLast (hk : k < q.heap.length - 1) : q.popLast.actionAt k = q.actionAt k := by
  simp only [actionAt, idAt_popLast hk, popLast_slots]
  split_ifs <;> rfl

/-- `q'` is `q` with the action `id` taken off the heap: the rest of the heap ordered with its
back-pointers right, `id`'s record with no position, and every other record as it was but for its
position. -/
structure Removes (q q' : TimerQueue) (id : Nat) : Prop where
  ordered : q'.Ordered q'.heap.length
  placed : q'.Placed
  mem : ∀ x, x ∈ q'.heap ↔ x ∈ q.heap ∧ x ≠ id
  index : (q'.slots id).index = -1
  action : ∀ x, (q'.slots x).action = (q.slots x).action
  state : ∀ x, (q'.slots x).state = (q.slots x).state
  outside : ∀ x, x ∉ q.heap → q'.slots x = q.slots x
  lastId : q'.lastId = q.lastId
  skipMissed : q'.skipMissed = q.skipMissed

/-- With the first `m` positions in order, taking off the last of `m + 1` takes its action off the
heap. -/
theorem removes_popLast (hp : q.Placed) (hm : q.heap.length = m + 1) (ho : q.Ordered m) :
    Removes q q.popLast (q.idAt m) where
  ordered := by
    intro k hk0 hk
    simp only [popLast_heap_length, hm, Nat.add_sub_cancel] at hk
    have hpk := parent_lt (show k ≠ 0 by omega)
    rw [actionAt_popLast (by omega), actionAt_popLast (by omega)]
    exact ho k hk0 hk
  placed := by
    intro k hk
    simp only [popLast_heap_length, hm, Nat.add_sub_cancel] at hk
    have hne : q.idAt k ≠ q.idAt m := fun h => by
      have := hp.idAt_inj (by omega) (by omega) h
      omega
    rw [idAt_popLast (by omega), popLast_slots, hm, Nat.add_sub_cancel, if_neg hne]
    exact hp k (by omega)
  mem x := by
    rw [mem_heap_iff, mem_heap_iff, popLast_heap_length, hm, Nat.add_sub_cancel]
    constructor
    · rintro ⟨k, hk, rfl⟩
      refine ⟨⟨k, by omega, (idAt_popLast (by omega)).symm⟩, fun h => ?_⟩
      rw [idAt_popLast (by omega)] at h
      have := hp.idAt_inj (by omega) (by omega) h
      omega
    · rintro ⟨⟨k, hk, rfl⟩, hne⟩
      have hkm : k ≠ m := fun h => hne (h ▸ rfl)
      exact ⟨k, by omega, idAt_popLast (by omega)⟩
  index := by rw [popLast_slots, hm, Nat.add_sub_cancel, if_pos rfl]
  action x := by rw [popLast_slots]; split_ifs <;> rfl
  state x := by rw [popLast_slots]; split_ifs <;> rfl
  outside x hx := by
    rw [popLast_slots, if_neg]
    rintro rfl
    exact hx (idAt_mem (by omega))
  lastId := rfl
  skipMissed := rfl

/-- Moving actions around before taking one off is taking it off. -/
theorem Removes.of_reorders {q₁ q₂ : TimerQueue} {id : Nat} (h₁ : Reorders n q q₁)
    (h₂ : Removes q₁ q₂ id) : Removes q q₂ id where
  ordered := h₂.ordered
  placed := h₂.placed
  mem x := (h₂.mem x).trans (and_congr_left' (h₁.mem x))
  index := h₂.index
  action x := (h₂.action x).trans (h₁.action x)
  state x := (h₂.state x).trans (h₁.state x)
  outside x hx := (h₂.outside x fun h => hx ((h₁.mem x).1 h)).trans (h₁.outside x hx)
  lastId := h₂.lastId.trans h₁.lastId
  skipMissed := h₂.skipMissed.trans h₁.skipMissed

theorem Reorders.mono {q' : TimerQueue} (h : Reorders m q q') (hmn : m ≤ n) : Reorders n q q' :=
  { h with beyond := fun k hk => h.beyond k (by omega) }

theorem Ordered.mono (ho : q.Ordered n) (hmn : m ≤ n) : q.Ordered m :=
  fun k hk0 hk => ho k hk0 (by omega)

/-! ## Taking the root, or any position, off the heap -/

/-- Taking the root off an ordered heap takes the root's action off. -/
theorem removes_pop (hp : q.Placed) (ho : q.Ordered q.heap.length) (hne : 0 < q.heap.length) :
    Removes q q.pop (q.idAt 0) := by
  obtain ⟨m, hm⟩ : ∃ m, q.heap.length = m + 1 := ⟨q.heap.length - 1, by omega⟩
  have hat := actionAt_swap (q := q) (i := 0) (j := m) (by omega) (by omega)
  have hs := reorders_swap hp (i := 0) (j := m) (n := m + 1) (by omega) (by omega) (by omega)
  -- the last action now sits at the root, and only below the root may the order fail
  have hdo : (q.swap 0 m).DownOrder m 0 := by
    refine ⟨fun k hk0 hk hpk0 => ?_, fun h => absurd h (lt_irrefl 0)⟩
    have hpk := parent_lt (show k ≠ 0 by omega)
    rw [hat k, if_neg (by omega), if_neg (by omega), hat (parent k), if_neg (by omega),
      if_neg hpk0]
    exact ho k hk0 (by omega)
  have hd := reorders_down (i := 0) hs.placed (n := m) (by rw [hs.length]; omega)
  have hlast : ((q.swap 0 m).down m 0).1.idAt m = q.idAt 0 := by
    rw [hd.beyond m le_rfl, idAt_swap (by omega) (by omega), if_pos rfl]
  have hr := removes_popLast hd.placed (by rw [hd.length, hs.length, hm])
    (ordered_down hdo (by rw [hs.length]; omega))
  rw [hlast] at hr
  have hpop : q.pop = ((q.swap 0 m).down m 0).1.popLast := by
    simp only [pop, hm, Nat.add_sub_cancel]
  rw [hpop]
  exact (hr.of_reorders hd).of_reorders hs

/-- Taking any position off an ordered heap takes its action off. -/
theorem removes_remove (hp : q.Placed) (ho : q.Ordered q.heap.length) (hi : i < q.heap.length) :
    Removes q (q.remove i) (q.idAt i) := by
  obtain ⟨m, hm⟩ : ∃ m, q.heap.length = m + 1 := ⟨q.heap.length - 1, by omega⟩
  by_cases him : m = i
  · -- the last position: nothing moves
    subst him
    have hrem : q.remove m = q.popLast := by simp [remove, hm]
    rw [hrem]
    exact removes_popLast hp hm (ho.mono (by omega))
  · have hat := actionAt_swap (q := q) (i := i) (j := m) (by omega) (by omega)
    have hs := reorders_swap hp (i := i) (j := m) (n := m + 1) (by omega) (by omega) (by omega)
    -- the last action now sits at `i`, where it may be out of order either way
    have hro : (q.swap i m).Replaced m i := by
      constructor
      · intro k hk0 hk hki hpki
        have hpk := parent_lt (show k ≠ 0 by omega)
        rw [hat k, if_neg (by omega), if_neg hki, hat (parent k), if_neg (by omega), if_neg hpki]
        exact ho k hk0 (by omega)
      · intro hi0 k hk0 hk hpki
        have hpi := parent_lt (show i ≠ 0 by omega)
        have hki : k ≠ i := by
          have := parent_lt (show k ≠ 0 by omega)
          omega
        rw [hat k, if_neg (by omega), if_neg hki, hat (parent i), if_neg (by omega),
          if_neg (by omega)]
        have hk' := ho k hk0 (by omega)
        rw [hpki] at hk'
        exact Action.not_before_trans hk' (ho i hi0 (by omega))
    have hf := reorders_sift (i := i) hs.placed (n := m) (by omega) (by rw [hs.length]; omega)
    have hlast : ((q.swap i m).sift m i).idAt m = q.idAt i := by
      rw [hf.beyond m le_rfl, idAt_swap (by omega) (by omega), if_pos rfl]
    have hr := removes_popLast hf.placed (by rw [hf.length, hs.length, hm])
      (ordered_sift hro (by omega) (by rw [hs.length]; omega))
    rw [hlast] at hr
    have hrem : q.remove i = ((q.swap i m).sift m i).popLast := by
      simp [remove, hm, him]
    rw [hrem]
    exact (hr.of_reorders hf).of_reorders hs

/-! ## Pushing -/

/-- `q'` is `q` with the action `id` added to the heap: the heap ordered with its back-pointers
right, the same ids and `id`, and every record as it was but for its position. -/
structure Adds (q q' : TimerQueue) (id : Nat) : Prop where
  ordered : q'.Ordered q'.heap.length
  placed : q'.Placed
  mem : ∀ x, x ∈ q'.heap ↔ x ∈ q.heap ∨ x = id
  action : ∀ x, (q'.slots x).action = (q.slots x).action
  state : ∀ x, (q'.slots x).state = (q.slots x).state
  outside : ∀ x, x ∉ q.heap → x ≠ id → q'.slots x = q.slots x
  lastId : q'.lastId = q.lastId
  skipMissed : q'.skipMissed = q.skipMissed

/-- Pushing a pending action that is not in an ordered heap adds it. -/
theorem adds_push (hp : q.Placed) (ho : q.Ordered q.heap.length) {id : Nat} (hid : id ∉ q.heap)
    (hst : (q.slots id).state = .pending) : Adds q (q.push id) id := by
  let q₁ : TimerQueue :=
    { q.modify id (fun s => { s with index := q.heap.length }) with heap := q.heap ++ [id] }
  have hlen : q₁.heap.length = q.heap.length + 1 := by simp [q₁]
  have hidAt : ∀ k, q₁.idAt k = if k = q.heap.length then id else q.idAt k := by
    intro k
    simp only [q₁, idAt, List.getD_eq_getElem?_getD, List.getElem?_append]
    rcases Nat.lt_trichotomy k q.heap.length with h | h | h
    · simp [h, Nat.ne_of_lt h]
    · simp [h]
    · have h1 : [id][k - q.heap.length]? = none := List.getElem?_eq_none (by simp; omega)
      simp [Nat.ne_of_gt h, Nat.not_lt.2 h.le, h1]
  have hne : ∀ k < q.heap.length, q.idAt k ≠ id := fun k hk h => hid (h ▸ idAt_mem hk)
  have hslots : ∀ x, q₁.slots x = if x = id then { q.slots x with index := q.heap.length }
      else q.slots x := fun _ => rfl
  have hat : ∀ k < q.heap.length, q₁.actionAt k = q.actionAt k := by
    intro k hk
    simp only [actionAt, hidAt, if_neg (show k ≠ q.heap.length by omega), hslots, if_neg (hne k hk)]
  have hp₁ : q₁.Placed := by
    intro k hk
    rw [hlen] at hk
    rw [hidAt, hslots]
    by_cases hkl : k = q.heap.length
    · simp [hkl, hst]
    · rw [if_neg hkl, if_neg (hne k (by omega))]
      exact hp k (by omega)
  -- only the new action may be out of order, and it has no children yet
  have huo : q₁.UpOrder (q.heap.length + 1) q.heap.length := by
    constructor
    · intro k hk0 hk hkl
      have hpk := parent_lt (show k ≠ 0 by omega)
      rw [hat k (by omega), hat (parent k) (by omega)]
      exact ho k hk0 (by omega)
    · intro _ k hk0 hk hkp
      rcases child_of_parent_eq hk0 hkp with rfl | rfl <;> omega
  have hr := reorders_up hp₁ (j := q.heap.length) (n := q.heap.length + 1) (by omega) (by rw [hlen])
  have hpush : q.push id = q₁.up q.heap.length := rfl
  rw [hpush]
  exact {
    ordered := by rw [hr.length, hlen]; exact ordered_up huo (by omega) (by rw [hlen])
    placed := hr.placed
    mem := fun x => by rw [hr.mem x]; simp [q₁]
    action := fun x => by rw [hr.action x, hslots]; split_ifs <;> rfl
    state := fun x => by rw [hr.state x, hslots]; split_ifs <;> rfl
    outside := fun x hx hxid => by
      rw [hr.outside x (by simp [q₁, hx, hxid]), hslots, if_neg hxid]
    lastId := hr.lastId
    skipMissed := hr.skipMissed }

/-! ## Changing a due time -/

@[simp] theorem setDue_heap (q : TimerQueue) (id : Nat) (due : Time) :
    (q.setDue id due).heap = q.heap := rfl

@[simp] theorem setDue_lastId (q : TimerQueue) (id : Nat) (due : Time) :
    (q.setDue id due).lastId = q.lastId := rfl

theorem setDue_slots (q : TimerQueue) (id : Nat) (due : Time) (x : Nat) :
    (q.setDue id due).slots x =
      if x = id then { q.slots x with action := { (q.slots x).action with due := due } }
      else q.slots x := rfl

/-- Changing the due time of an action keeps the back-pointers. -/
theorem Placed.setDue (hp : q.Placed) (id : Nat) (due : Time) : (q.setDue id due).Placed := by
  intro k hk
  rw [setDue_heap] at hk
  simp only [TimerQueue.setDue, modify_idAt, modify_slots]
  split_ifs <;> exact hp k hk

/-- After the due time of the action at `i` changed, only `i` may be out of order. -/
theorem Ordered.replaced_setDue (ho : q.Ordered q.heap.length) (hp : q.Placed)
    (hi : i < q.heap.length) (due : Time) : (q.setDue (q.idAt i) due).Replaced q.heap.length i := by
  have hat : ∀ k < q.heap.length, k ≠ i → (q.setDue (q.idAt i) due).actionAt k = q.actionAt k := by
    intro k hk hki
    rw [TimerQueue.setDue, actionAt_modify, if_neg fun h => hki (hp.idAt_inj hk hi h)]
  constructor
  · intro k hk0 hk hki hpki
    have hpk := parent_lt (show k ≠ 0 by omega)
    rw [hat k hk hki, hat (parent k) (by omega) hpki]
    exact ho k hk0 hk
  · intro hi0 k hk0 hk hpki
    have hpi := parent_lt (show i ≠ 0 by omega)
    have hki : k ≠ i := by
      have := parent_lt (show k ≠ 0 by omega)
      omega
    rw [hat k hk hki, hat (parent i) (by omega) (by omega)]
    have hk' := ho k hk0 hk
    rw [hpki] at hk'
    exact Action.not_before_trans hk' (ho i hi0 hi)

theorem actionAt_modify_of {id : Nat} {f : Slot → Slot} (hf : ∀ s, (f s).action = s.action)
    (k : Nat) : (q.modify id f).actionAt k = q.actionAt k := by
  rw [actionAt_modify]
  split_ifs with h
  · rw [hf, ← h]; rfl
  · rfl

/-- Changing records but not their actions keeps the order. -/
theorem Ordered.modify (ho : q.Ordered n) {id : Nat} {f : Slot → Slot}
    (hf : ∀ s, (f s).action = s.action) : (q.modify id f).Ordered n := by
  intro k hk0 hk
  rw [actionAt_modify_of hf, actionAt_modify_of hf]
  exact ho k hk0 hk

/-! ## Dropping all -/

theorem foldl_cancel_slots (l : List Nat) (q : TimerQueue) (x : Nat) :
    (l.foldl (fun q id => q.modify id fun s => { s with state := .canceled, index := -1 }) q).slots
      x = if x ∈ l then { q.slots x with state := .canceled, index := -1 } else q.slots x := by
  induction l generalizing q with
  | nil => simp
  | cons a l ih =>
    rw [List.foldl_cons, ih]
    by_cases hxa : x = a
    · subst hxa
      simp
    · simp [hxa]

theorem foldl_cancel_lastId (l : List Nat) (q : TimerQueue) :
    (l.foldl (fun q id => q.modify id fun s => { s with state := .canceled, index := -1 }) q).lastId
      = q.lastId := by
  induction l generalizing q with
  | nil => rfl
  | cons a l ih => rw [List.foldl_cons, ih]; rfl

theorem dropAll_slots (q : TimerQueue) (x : Nat) :
    q.dropAll.2.slots x =
      if x ∈ q.heap then { q.slots x with state := .canceled, index := -1 } else q.slots x :=
  foldl_cancel_slots q.heap q x

@[simp] theorem dropAll_heap (q : TimerQueue) : q.dropAll.2.heap = [] := rfl

@[simp] theorem dropAll_lastId (q : TimerQueue) : q.dropAll.2.lastId = q.lastId :=
  foldl_cancel_lastId q.heap q

/-! ## What cancel and popDue do -/

theorem cancel_eq_some {a : Option Nat} {q' : TimerQueue} (h : q.cancel a = some q') :
    ∃ id, a = some id ∧ (q.slots id).state = .pending ∧ 0 ≤ (q.slots id).index ∧
      q' = (q.remove (q.slots id).index.toNat).modify id fun s => { s with state := .canceled } := by
  cases a with
  | none => simp [cancel] at h
  | some id =>
    simp only [cancel] at h
    split at h
    · cases h
    · rename_i hc
      simp only [ne_eq, not_or, not_not, Int.not_lt] at hc
      exact ⟨id, rfl, hc.1, hc.2, (Option.some.inj h).symm⟩

/-- What a due root turns into: a one-shot action is popped and marked fired, a repeating one moves
to its next due time and the heap is fixed at its position. -/
theorem popDue_eq_some {limit : Time} {f : Firing} {q' : TimerQueue}
    (h : q.popDue limit = some (f, q')) :
    ∃ r rest, q.heap = r :: rest ∧ (q.slots r).action.due.ns ≤ limit.ns ∧
      f = (q.slots r).action.firing ∧
      ((q.slots r).action.kind = .once ∧ q' = q.pop.modify r (fun s => { s with state := .fired }) ∨
        (q.slots r).action.kind = .every ∧
          q' = (q.setDue r (Queue.nextDue (q.slots r).action limit q.skipMissed)).fix
                (q.slots r).index.toNat) := by
  unfold popDue at h
  split at h
  · cases h
  · rename_i r rest hh
    dsimp only at h
    split at h
    · cases h
    · rename_i hdue
      refine ⟨r, rest, hh, by simpa [Time.after] using hdue, ?_⟩
      split at h
      · rename_i hk
        obtain ⟨rfl, rfl⟩ := Prod.mk.inj (Option.some.inj h)
        exact ⟨rfl, .inl ⟨hk, rfl⟩⟩
      · rename_i hk
        obtain ⟨rfl, rfl⟩ := Prod.mk.inj (Option.some.inj h)
        exact ⟨rfl, .inr ⟨hk, rfl⟩⟩

/-- Moving the due time of the root and fixing the heap there only moves actions around, and leaves
a heap. -/
theorem reorders_fix_root (hp : q.Placed) (ho : q.Ordered q.heap.length) {r : Nat}
    {rest : List Nat} (hh : q.heap = r :: rest) (due : Time) :
    Reorders q.heap.length (q.setDue r due) ((q.setDue r due).fix (q.slots r).index.toNat) ∧
      ((q.setDue r due).fix (q.slots r).index.toNat).Ordered q.heap.length := by
  have hlen : 0 < q.heap.length := by simp [hh]
  have hr0 : q.idAt 0 = r := by simp [idAt, hh]
  have hidx : (q.slots r).index.toNat = 0 := by
    rw [← hr0, (hp 0 hlen).1]
    rfl
  have hro := ho.replaced_setDue hp hlen due
  rw [hr0] at hro
  rw [hidx]
  exact ⟨reorders_sift (hp.setDue r due) hlen le_rfl, ordered_sift hro hlen le_rfl⟩

theorem Ordered.modify_of_not_mem (ho : q.Ordered q.heap.length) {id : Nat} (hid : id ∉ q.heap)
    (f : Slot → Slot) : (q.modify id f).Ordered q.heap.length := by
  have hat : ∀ k < q.heap.length, (q.modify id f).actionAt k = q.actionAt k := by
    intro k hk
    rw [actionAt_modify, if_neg fun (h : q.idAt k = id) => hid (h ▸ idAt_mem hk)]
  intro k hk0 hk
  have hpk := parent_lt (show k ≠ 0 by omega)
  rw [hat k hk, hat (parent k) (by omega)]
  exact ho k hk0 hk

/-! ## The invariant -/

/-- The timer queue's representation invariant. -/
structure Inv (q : TimerQueue) : Prop where
  /-- The heap is a min-heap in firing order. -/
  ordered : q.Ordered q.heap.length
  /-- The record of the id at each position says that position, and that it is pending. -/
  placed : q.Placed
  /-- Every action out of the heap has no position and was fired, once, or canceled. -/
  retired : ∀ x, x ∉ q.heap → (q.slots x).Retired
  /-- The record of the `x`-th armed action carries id `x`. -/
  ids : ∀ x, 0 < x → x ≤ q.lastId → (q.slots x).action.id = x
  /-- The heap holds armed actions only. -/
  armed : ∀ x ∈ q.heap, 0 < x ∧ x ≤ q.lastId

theorem inv_empty (skipMissed : Bool) : (empty skipMissed).Inv where
  ordered _ _ hk := absurd hk (Nat.not_lt_zero _)
  placed _ hk := absurd hk (Nat.not_lt_zero _)
  retired _ _ := ⟨rfl, .inr rfl⟩
  ids _ h0 h := absurd h (by simp [empty]; omega)
  armed _ h := absurd h List.not_mem_nil

/-- Taking an action off the heap and marking it fired (a one-shot action) or canceled keeps the
invariant. -/
theorem Inv.retire (hq : q.Inv) {q' : TimerQueue} {id : Nat} (hr : Removes q q' id)
    {st : ActionState} (hst : st = .fired ∧ (q.slots id).action.kind = .once ∨ st = .canceled) :
    (q'.modify id fun s => { s with state := st }).Inv where
  ordered := hr.ordered.modify fun _ => rfl
  placed := hr.placed.modify_of_not_mem (fun h => ((hr.mem id).1 h).2 rfl) _
  retired x hx := by
    rw [modify_heap] at hx
    rw [modify_slots]
    split_ifs with hxid
    · subst hxid
      exact ⟨hr.index, by simpa [hr.action] using hst⟩
    · have hxq : x ∉ q.heap := fun h => hx ((hr.mem x).2 ⟨h, hxid⟩)
      rw [hr.outside x hxq]
      exact hq.retired x hxq
  ids x hx0 hx := by
    rw [modify_lastId, hr.lastId] at hx
    rw [modify_slots]
    split_ifs <;> rw [hr.action] <;> exact hq.ids x hx0 hx
  armed x hx := by
    rw [modify_lastId, hr.lastId]
    exact hq.armed x ((hr.mem x).1 hx).1

/-- The action `arm` records: the next id, due a duration after `now`, with the duration as its
period if it repeats. -/
def armed (q : TimerQueue) (cont : Nat) (kind : Kind) (d : Int) (now : Time) : Action :=
  { id := q.lastId + 1, cont := cont, kind := kind,
    period := if kind = .every then d else 0, due := now.add d }

/-- The queue with the record of a new action written under the next id, before it is pushed. -/
def withRecord (q : TimerQueue) (a : Action) : TimerQueue :=
  { q.modify (q.lastId + 1) (fun _ => { action := a, index := 0, state := .pending }) with
    lastId := q.lastId + 1 }

theorem withRecord_slots (q : TimerQueue) (a : Action) (x : Nat) :
    (q.withRecord a).slots x =
      if x = q.lastId + 1 then { action := a, index := 0, state := .pending } else q.slots x :=
  rfl

theorem arm_eq (q : TimerQueue) (cont : Nat) (kind : Kind) (d : Int) (now : Time) :
    q.arm cont kind d now =
      (q.lastId + 1, (q.withRecord (q.armed cont kind d now)).push (q.lastId + 1)) := rfl

/-- Arming adds the new action to the heap: its id is above every id in the heap, so writing its
record leaves the heap as it was, and pushing it adds it. -/
theorem Inv.adds_arm (hq : q.Inv) (cont : Nat) (kind : Kind) (d : Int) (now : Time) :
    Adds (q.withRecord (q.armed cont kind d now)) (q.arm cont kind d now).2 (q.lastId + 1) := by
  have hfresh : q.lastId + 1 ∉ q.heap := fun h => by
    have := (hq.armed _ h).2
    omega
  have hp₀ := hq.placed.modify_of_not_mem hfresh
    fun _ => { action := q.armed cont kind d now, index := 0, state := .pending }
  have ho₀ := hq.ordered.modify_of_not_mem hfresh
    fun _ => { action := q.armed cont kind d now, index := 0, state := .pending }
  rw [arm_eq]
  exact adds_push (q := q.withRecord (q.armed cont kind d now)) (fun k hk => hp₀ k hk)
    (fun k hk0 hk => ho₀ k hk0 hk) hfresh (by simp [withRecord_slots])

/-- Arming keeps the invariant: the new record carries the next id and the action is pushed. -/
theorem Inv.arm (hq : q.Inv) (cont : Nat) (kind : Kind) (d : Int) (now : Time) :
    (q.arm cont kind d now).2.Inv := by
  have hadd := hq.adds_arm cont kind d now
  refine ⟨hadd.ordered, hadd.placed, ?_, ?_, ?_⟩
  · intro x hx
    rw [hadd.mem x, not_or] at hx
    rw [hadd.outside x hx.1 hx.2, withRecord_slots, if_neg hx.2]
    exact hq.retired x hx.1
  · intro x hx0 hx
    rw [hadd.lastId] at hx
    rw [hadd.action, withRecord_slots]
    split_ifs with h
    · exact h.symm
    · exact hq.ids x hx0 (by change x ≤ q.lastId + 1 at hx; omega)
  · intro x hx
    rw [hadd.lastId]
    rcases (hadd.mem x).1 hx with h | rfl
    · have := hq.armed x h
      exact ⟨this.1, by change x ≤ q.lastId + 1; omega⟩
    · exact ⟨by omega, le_rfl⟩

/-- Canceling keeps the invariant: a pending action has a position, is taken off there and marked
canceled. -/
theorem Inv.cancel (hq : q.Inv) {a : Option Nat} {q' : TimerQueue} (h : q.cancel a = some q') :
    q'.Inv := by
  obtain ⟨id, rfl, -, hidx, rfl⟩ := cancel_eq_some h
  have hmem : id ∈ q.heap := by
    by_contra hn
    have := (hq.retired id hn).1
    omega
  obtain ⟨i, hi, rfl⟩ := mem_heap_iff.1 hmem
  have hidx' : (q.slots (q.idAt i)).index.toNat = i := by
    rw [(hq.placed i hi).1]
    rfl
  rw [hidx']
  exact hq.retire (removes_remove hq.placed hq.ordered hi) (.inr rfl)

/-- Taking a due action keeps the invariant. -/
theorem Inv.popDue (hq : q.Inv) {limit : Time} {f : Firing} {q' : TimerQueue}
    (h : q.popDue limit = some (f, q')) : q'.Inv := by
  obtain ⟨r, rest, hh, -, -, ⟨hk, rfl⟩ | ⟨-, rfl⟩⟩ := popDue_eq_some h
  · -- a one-shot root is popped and marked fired
    have hr0 : q.idAt 0 = r := by simp [idAt, hh]
    have hr := removes_pop hq.placed hq.ordered (by simp [hh])
    rw [hr0] at hr
    exact hq.retire hr (.inl ⟨rfl, hk⟩)
  · -- a repeating root moves to its next due time and stays in the heap
    have hrm : r ∈ q.heap := by simp [hh]
    obtain ⟨hre, ho⟩ := reorders_fix_root hq.placed hq.ordered hh
      (Queue.nextDue (q.slots r).action limit q.skipMissed)
    refine ⟨by rw [hre.length]; exact ho, hre.placed, ?_, ?_, ?_⟩
    · intro x hx
      have hxq : x ∉ q.heap := fun h' => hx ((hre.mem x).2 h')
      rw [hre.outside x hxq, setDue_slots, if_neg fun (h' : x = r) => hxq (h' ▸ hrm)]
      exact hq.retired x hxq
    · intro x hx0 hx
      rw [hre.lastId] at hx
      rw [hre.action, setDue_slots]
      split_ifs <;> exact hq.ids x hx0 hx
    · intro x hx
      rw [hre.lastId]
      exact hq.armed x ((hre.mem x).1 hx)

/-- Taking a due repeating action leaves it in the heap, pending, at its next due time. -/
theorem Inv.popDue_every (hq : q.Inv) {limit : Time} {f : Firing} {q' : TimerQueue}
    (h : q.popDue limit = some (f, q')) (hk : f.kind = .every) :
    f.action ∈ q'.heap ∧ (q'.slots f.action).state = .pending ∧
      (q'.slots f.action).action.due =
        Queue.nextDue (q.slots f.action).action limit q.skipMissed := by
  obtain ⟨r, rest, hh, -, rfl, ⟨hk', -⟩ | ⟨-, rfl⟩⟩ := popDue_eq_some h
  · simp [hk'] at hk
  · have hrm : r ∈ q.heap := by simp [hh]
    have hid : (q.slots r).action.firing.action = r := by
      simpa using hq.ids r (hq.armed r hrm).1 (hq.armed r hrm).2
    have hr0 : q.idAt 0 = r := by simp [idAt, hh]
    have hpend := (hq.placed 0 (by simp [hh])).2
    rw [hr0] at hpend
    obtain ⟨hre, -⟩ := reorders_fix_root hq.placed hq.ordered hh
      (Queue.nextDue (q.slots r).action limit q.skipMissed)
    rw [hid]
    refine ⟨(hre.mem r).2 hrm, ?_, ?_⟩
    · rw [hre.state, setDue_slots, if_pos rfl]
      exact hpend
    · rw [hre.action, setDue_slots, if_pos rfl]

/-- Dropping all keeps the invariant: every pending action is marked canceled with no position. -/
theorem Inv.dropAll (hq : q.Inv) : q.dropAll.2.Inv where
  ordered _ _ hk := absurd hk (by simp)
  placed _ hk := absurd hk (by simp)
  retired x _ := by
    rw [dropAll_slots]
    split_ifs with hx
    · exact ⟨rfl, .inr rfl⟩
    · exact hq.retired x hx
  ids x hx0 hx := by
    rw [dropAll_lastId] at hx
    rw [dropAll_slots]
    split_ifs <;> exact hq.ids x hx0 hx
  armed _ hx := absurd hx (by simp)

/-- Every call keeps the invariant. -/
theorem Inv.step (hq : q.Inv) (op : Op) : (q.step op).Inv := by
  cases op with
  | arm cont kind d now => exact hq.arm cont kind d now
  | cancel a =>
    simp only [TimerQueue.step]
    cases h : q.cancel a with
    | none => exact hq
    | some q' => exact hq.cancel h
  | popDue limit =>
    simp only [TimerQueue.step]
    cases h : q.popDue limit with
    | none => exact hq
    | some r =>
      obtain ⟨f, q'⟩ := r
      exact hq.popDue h
  | dropAll => exact hq.dropAll

/-- Every run keeps the invariant. -/
theorem Inv.run (hq : q.Inv) (ops : List Op) : (q.run ops).Inv := by
  induction ops generalizing q with
  | nil => exact hq
  | cons op ops ih => exact ih (hq.step op)

/-- From the empty queue, every run of arming, canceling, taking due actions and dropping all keeps
the representation invariant; the next arm's id is above every id armed so far, and a due
repeating action stays in the heap one period on. -/
theorem heap_representation_invariant (skipMissed : Bool) (ops : List Op) :
    (run (empty skipMissed) ops).Inv ∧
    (∀ cont kind d now x, 0 < x → x ≤ (run (empty skipMissed) ops).lastId →
      ((run (empty skipMissed) ops).slots x).action.id <
        ((run (empty skipMissed) ops).arm cont kind d now).1) ∧
    ∀ limit f q', (run (empty skipMissed) ops).popDue limit = some (f, q') → f.kind = .every →
      f.action ∈ q'.heap ∧ (q'.slots f.action).state = .pending ∧
        (q'.slots f.action).action.due =
          Queue.nextDue ((run (empty skipMissed) ops).slots f.action).action limit
            (run (empty skipMissed) ops).skipMissed := by
  have hq := (inv_empty skipMissed).run ops
  refine ⟨hq, fun cont kind d now x hx0 hx => ?_, fun limit f q' h hk => ?_⟩
  · rw [hq.ids x hx0 hx]
    show x < _ + 1
    omega
  · exact hq.popDue_every h hk

end TimerQueue

end HostDispatch
