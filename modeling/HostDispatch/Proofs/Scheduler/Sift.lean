import HostDispatch.Scheduler.Heap
import HostDispatch.Proofs.Scheduler.Order

/-!
# Sifting keeps the heap

The timer queue's heap is ordered when every position among the first `n` but the root holds an
action that fires no earlier than its parent's (`Ordered`). Its back-pointers are right when the
record of the id at each position says that position and that the action is pending (`Placed`).

A swap of two positions keeps the back-pointers and moves nothing else (`Reorders`), so `up`,
`down` and `sift` keep them too. For the order, each sift starts from an order that holds but at
one position, in the shape the sift needs: `UpOrder` (all in order but `j` against its parent),
`DownOrder` (all in order but `i` against its children) and `Replaced` (all in order but `i`
either way, as after the action at `i` was replaced or changed). Each has one lemma for a step of
its sift and one for where the sift stops, and the sift's functional induction joins them.
-/

namespace HostDispatch

namespace Action

/-- An action never fires before one that fires before it. -/
theorem before_asymm {a b : Action} (h : a.before b) : ¬ b.before a := by
  simp [not_before_of_before h]

/-- Firing no earlier is transitive: it is the order by due instant and id, taken the other way. -/
theorem not_before_trans {a b c : Action} (hab : ¬ a.before b) (hbc : ¬ b.before c) :
    ¬ a.before c := by
  simp only [before, Bool.or_eq_true, decide_eq_true_eq, Bool.and_eq_true, beq_iff_eq] at *
  omega

end Action

namespace TimerQueue

variable {q : TimerQueue} {i j k n : Nat}

/-! ## Positions -/

@[simp] theorem parent_left (i : Nat) : parent (2 * i + 1) = i := by
  unfold parent; omega

@[simp] theorem parent_right (i : Nat) : parent (2 * i + 2) = i := by
  unfold parent; omega

/-- The positions whose parent is `i` are its two children. -/
theorem child_of_parent_eq (hk : 0 < k) (h : parent k = i) : k = 2 * i + 1 ∨ k = 2 * i + 2 := by
  unfold parent at h; omega

/-! ## Records and positions -/

@[simp] theorem modify_heap (q : TimerQueue) (id : Nat) (f : Slot → Slot) :
    (q.modify id f).heap = q.heap := rfl

@[simp] theorem modify_lastId (q : TimerQueue) (id : Nat) (f : Slot → Slot) :
    (q.modify id f).lastId = q.lastId := rfl

@[simp] theorem modify_skipMissed (q : TimerQueue) (id : Nat) (f : Slot → Slot) :
    (q.modify id f).skipMissed = q.skipMissed := rfl

@[simp] theorem modify_slots (q : TimerQueue) (id : Nat) (f : Slot → Slot) (k : Nat) :
    (q.modify id f).slots k = if k = id then f (q.slots k) else q.slots k := rfl

@[simp] theorem modify_idAt (q : TimerQueue) (id : Nat) (f : Slot → Slot) (k : Nat) :
    (q.modify id f).idAt k = q.idAt k := rfl

theorem idAt_eq_getElem (h : i < q.heap.length) : q.idAt i = q.heap[i] := by
  simp [idAt, h]

/-- An id is in the heap when it is the id at one of its positions. -/
theorem mem_heap_iff {id : Nat} : id ∈ q.heap ↔ ∃ k < q.heap.length, q.idAt k = id := by
  rw [List.mem_iff_getElem]
  constructor
  · rintro ⟨k, hk, rfl⟩
    exact ⟨k, hk, idAt_eq_getElem hk⟩
  · rintro ⟨k, hk, rfl⟩
    exact ⟨k, hk, (idAt_eq_getElem hk).symm⟩

theorem idAt_mem (h : i < q.heap.length) : q.idAt i ∈ q.heap :=
  mem_heap_iff.2 ⟨i, h, rfl⟩

/-! ## Swapping two positions -/

@[simp] theorem swap_heap_length (q : TimerQueue) (i j : Nat) :
    (q.swap i j).heap.length = q.heap.length := by
  simp [swap]

@[simp] theorem swap_lastId (q : TimerQueue) (i j : Nat) : (q.swap i j).lastId = q.lastId := rfl

@[simp] theorem swap_skipMissed (q : TimerQueue) (i j : Nat) :
    (q.swap i j).skipMissed = q.skipMissed := rfl

theorem idAt_swap (hi : i < q.heap.length) (hj : j < q.heap.length) (k : Nat) :
    (q.swap i j).idAt k = if k = j then q.idAt i else if k = i then q.idAt j else q.idAt k := by
  simp only [swap, idAt, modify_heap, List.getD_eq_getElem?_getD, List.getElem?_set]
  by_cases hkj : k = j
  · subst hkj; simp [hj]
  · by_cases hki : k = i
    · subst hki; simp [hi, hkj, Ne.symm hkj]
    · simp [Ne.symm hkj, Ne.symm hki, hkj, hki]

/-- A swap rewrites no more of a record than its position. -/
@[simp] theorem swap_slots_action (q : TimerQueue) (i j id : Nat) :
    ((q.swap i j).slots id).action = (q.slots id).action := by
  simp only [swap, modify_slots]
  split_ifs <;> rfl

@[simp] theorem swap_slots_state (q : TimerQueue) (i j id : Nat) :
    ((q.swap i j).slots id).state = (q.slots id).state := by
  simp only [swap, modify_slots]
  split_ifs <;> rfl

theorem swap_slots_index (q : TimerQueue) (i j id : Nat) :
    ((q.swap i j).slots id).index =
      if id = q.idAt i then (j : Int)
      else if id = q.idAt j then (i : Int) else (q.slots id).index := by
  simp only [swap, modify_slots]
  split_ifs <;> rfl

theorem swap_slots_of_ne {id : Nat} (hi : id ≠ q.idAt i) (hj : id ≠ q.idAt j) :
    (q.swap i j).slots id = q.slots id := by
  simp [swap, hi, hj]

theorem actionAt_swap (hi : i < q.heap.length) (hj : j < q.heap.length) (k : Nat) :
    (q.swap i j).actionAt k =
      if k = j then q.actionAt i else if k = i then q.actionAt j else q.actionAt k := by
  simp only [actionAt, idAt_swap hi hj, swap_slots_action]
  split_ifs <;> rfl

/-! ## Back-pointers -/

/-- The record of the id at each position of the heap says that position, and that the action is
pending. -/
def Placed (q : TimerQueue) : Prop :=
  ∀ k < q.heap.length, (q.slots (q.idAt k)).index = k ∧ (q.slots (q.idAt k)).state = .pending

/-- With the back-pointers right, two positions that hold one id are one position: the heap has no
id twice. -/
theorem Placed.idAt_inj (hp : q.Placed) (hi : i < q.heap.length) (hj : j < q.heap.length)
    (h : q.idAt i = q.idAt j) : i = j := by
  have hii := (hp i hi).1
  have hjj := (hp j hj).1
  rw [h] at hii
  omega

theorem Placed.nodup (hp : q.Placed) : q.heap.Nodup := by
  rw [List.nodup_iff_injective_get]
  intro ⟨a, ha⟩ ⟨b, hb⟩ h
  have := hp.idAt_inj ha hb (by simpa [idAt_eq_getElem ha, idAt_eq_getElem hb] using h)
  exact Fin.ext this

/-- A swap of two positions keeps the back-pointers right. -/
theorem Placed.swap (hp : q.Placed) (hi : i < q.heap.length) (hj : j < q.heap.length) :
    (q.swap i j).Placed := by
  intro k hk
  rw [swap_heap_length] at hk
  rw [idAt_swap hi hj, swap_slots_index, swap_slots_state]
  by_cases hkj : k = j
  · subst hkj
    simpa using (hp i hi).2
  · by_cases hki : k = i
    · subst hki
      have hne : q.idAt j ≠ q.idAt k := fun h => hkj (hp.idAt_inj hk hj h.symm)
      simpa [hkj, hne] using (hp j hj).2
    · have hnei : q.idAt k ≠ q.idAt i := fun h => hki (hp.idAt_inj hk hi h)
      have hnej : q.idAt k ≠ q.idAt j := fun h => hkj (hp.idAt_inj hk hj h)
      simpa [hkj, hki, hnei, hnej] using hp k hk

/-- `q'` holds the pending actions of `q` moved among the first `n` positions: the same ids in
the heap, the records changed in their positions only, the back-pointers right, and nothing else
moved. -/
structure Reorders (n : Nat) (q q' : TimerQueue) : Prop where
  length : q'.heap.length = q.heap.length
  mem : ∀ id, id ∈ q'.heap ↔ id ∈ q.heap
  beyond : ∀ k, n ≤ k → q'.idAt k = q.idAt k
  action : ∀ id, (q'.slots id).action = (q.slots id).action
  state : ∀ id, (q'.slots id).state = (q.slots id).state
  outside : ∀ id, id ∉ q.heap → q'.slots id = q.slots id
  placed : q'.Placed
  lastId : q'.lastId = q.lastId
  skipMissed : q'.skipMissed = q.skipMissed

theorem Reorders.refl (hp : q.Placed) (n : Nat) : Reorders n q q :=
  ⟨rfl, fun _ => Iff.rfl, fun _ _ => rfl, fun _ => rfl, fun _ => rfl, fun _ _ => rfl, hp, rfl,
    rfl⟩

theorem Reorders.trans {q₁ q₂ : TimerQueue} (h₁ : Reorders n q q₁) (h₂ : Reorders n q₁ q₂) :
    Reorders n q q₂ where
  length := h₂.length.trans h₁.length
  mem id := (h₂.mem id).trans (h₁.mem id)
  beyond k hk := (h₂.beyond k hk).trans (h₁.beyond k hk)
  action id := (h₂.action id).trans (h₁.action id)
  state id := (h₂.state id).trans (h₁.state id)
  outside id hid := (h₂.outside id (fun h => hid ((h₁.mem id).1 h))).trans (h₁.outside id hid)
  placed := h₂.placed
  lastId := h₂.lastId.trans h₁.lastId
  skipMissed := h₂.skipMissed.trans h₁.skipMissed

/-- The id at each position after a swap is one that was in the heap, and the other way. -/
theorem mem_swap_heap (hi : i < q.heap.length) (hj : j < q.heap.length) {id : Nat} :
    id ∈ (q.swap i j).heap ↔ id ∈ q.heap := by
  rw [mem_heap_iff, mem_heap_iff, swap_heap_length]
  constructor
  · rintro ⟨k, hk, rfl⟩
    rw [idAt_swap hi hj]
    split_ifs
    · exact ⟨i, hi, rfl⟩
    · exact ⟨j, hj, rfl⟩
    · exact ⟨k, hk, rfl⟩
  · rintro ⟨k, hk, rfl⟩
    by_cases hki : k = i
    · exact ⟨j, hj, by rw [idAt_swap hi hj, if_pos rfl, hki]⟩
    · by_cases hkj : k = j
      · exact ⟨i, hi, by rw [idAt_swap hi hj, hkj]; split_ifs <;> simp_all⟩
      · exact ⟨k, hk, by rw [idAt_swap hi hj, if_neg hkj, if_neg hki]⟩

/-- A swap of two of the first `n` positions only moves actions among them. -/
theorem reorders_swap (hp : q.Placed) (hi : i < n) (hj : j < n) (hn : n ≤ q.heap.length) :
    Reorders n q (q.swap i j) where
  length := swap_heap_length q i j
  mem _ := mem_swap_heap (by omega) (by omega)
  beyond k hk := by rw [idAt_swap (by omega) (by omega), if_neg (by omega), if_neg (by omega)]
  action := swap_slots_action q i j
  state := swap_slots_state q i j
  outside id hid :=
    swap_slots_of_ne (fun h => hid (h ▸ idAt_mem (by omega))) (fun h => hid (h ▸ idAt_mem (by omega)))
  placed := hp.swap (by omega) (by omega)
  lastId := rfl
  skipMissed := rfl

/-- `up` from one of the first `n` positions only moves actions among them. -/
theorem reorders_up (hp : q.Placed) (hj : j < n) (hn : n ≤ q.heap.length) :
    Reorders n q (q.up j) := by
  fun_induction q.up j with
  | case1 q => exact .refl hp n
  | case2 q j hj0 _ ih =>
    have hpj := parent_lt hj0
    have hs := reorders_swap hp (i := parent j) (by omega) hj hn
    exact hs.trans (ih hs.placed (by omega) (by rw [hs.length]; exact hn))
  | case3 q j => exact .refl hp n

/-- `down` within the first `n` positions only moves actions among them. -/
theorem reorders_down (hp : q.Placed) (hn : n ≤ q.heap.length) :
    Reorders n q (q.down n i).1 := by
  fun_induction q.down n i with
  | case1 q i hc _ ih =>
    have hb := q.minChild_bounds hc
    have hs := reorders_swap hp (i := i) (by omega) hb.2 hn
    exact hs.trans (ih hs.placed (by rw [hs.length]; exact hn))
  | case2 q i => exact .refl hp n
  | case3 q i => exact .refl hp n

theorem sift_eq (q : TimerQueue) (n i : Nat) :
    q.sift n i = if i < (q.down n i).2 then (q.down n i).1 else (q.down n i).1.up i := rfl

/-- `sift` at one of the first `n` positions only moves actions among them. -/
theorem reorders_sift (hp : q.Placed) (hi : i < n) (hn : n ≤ q.heap.length) :
    Reorders n q (q.sift n i) := by
  have hd := reorders_down (i := i) hp hn
  rw [sift_eq]
  split
  · exact hd
  · exact hd.trans (reorders_up hd.placed hi (by rw [hd.length]; exact hn))

/-! ## The order -/

/-- Every position among the first `n` but the root holds an action that fires no earlier than its
parent's: the min-heap order. -/
def Ordered (q : TimerQueue) (n : Nat) : Prop :=
  ∀ k, 0 < k → k < n → ¬ (q.actionAt k).before (q.actionAt (parent k))

/-- What `up` needs at `j`: each of the first `n` positions but `j` is in order with its parent,
and `j`'s children are at or after `j`'s parent. -/
structure UpOrder (q : TimerQueue) (n j : Nat) : Prop where
  except : ∀ k, 0 < k → k < n → k ≠ j → ¬ (q.actionAt k).before (q.actionAt (parent k))
  grand : 0 < j → ∀ k, 0 < k → k < n → parent k = j →
    ¬ (q.actionAt k).before (q.actionAt (parent j))

/-- What `down` needs at `i`: each of the first `n` positions but `i`'s children is in order with
its parent, and `i`'s children are at or after `i`'s parent. -/
structure DownOrder (q : TimerQueue) (n i : Nat) : Prop where
  except : ∀ k, 0 < k → k < n → parent k ≠ i → ¬ (q.actionAt k).before (q.actionAt (parent k))
  grand : 0 < i → ∀ k, 0 < k → k < n → parent k = i →
    ¬ (q.actionAt k).before (q.actionAt (parent i))

/-- The order after the action at `i` was replaced or changed: each of the first `n` positions
but `i` and its children is in order with its parent, and `i`'s children are at or after `i`'s
parent. -/
structure Replaced (q : TimerQueue) (n i : Nat) : Prop where
  except : ∀ k, 0 < k → k < n → k ≠ i → parent k ≠ i →
    ¬ (q.actionAt k).before (q.actionAt (parent k))
  grand : 0 < i → ∀ k, 0 < k → k < n → parent k = i →
    ¬ (q.actionAt k).before (q.actionAt (parent i))

theorem less_eq (q : TimerQueue) (i j : Nat) :
    q.less i j = (q.actionAt i).before (q.actionAt j) := rfl

/-! ## Up -/

/-- A step of `up`: the action at `j` fires before its parent's, and after the swap the order
holds but at the parent. -/
theorem UpOrder.move (o : q.UpOrder n j) (hj0 : j ≠ 0) (hjn : j < n) (hn : n ≤ q.heap.length)
    (hb : q.less j (parent j)) : (q.swap (parent j) j).UpOrder n (parent j) := by
  rw [less_eq] at hb
  have hpj := parent_lt hj0
  have hat := actionAt_swap (q := q) (i := parent j) (j := j) (by omega) (by omega)
  constructor
  · intro k hk0 hkn hkp
    rw [hat k]
    by_cases hkj : k = j
    · -- the swapped pair, now the other way round
      subst hkj
      simpa [hat, show parent k ≠ k by omega] using Action.before_asymm hb
    · rw [if_neg hkj, if_neg hkp]
      by_cases hpk : parent k = j
      · -- a child of `j` now sits under `j`'s old parent
        rw [hpk, hat j, if_pos rfl]
        exact o.grand (by omega) k hk0 hkn hpk
      · by_cases hpkp : parent k = parent j
        · -- a sibling of `j` now sits under the action that moved up
          rw [hpkp, hat (parent j), if_neg (by omega), if_pos rfl]
          have hk := o.except k hk0 hkn hkj
          rw [hpkp] at hk
          exact fun h => hk (Action.before_trans h hb)
        · rw [hat (parent k), if_neg hpk, if_neg hpkp]
          exact o.except k hk0 hkn hkj
  · intro hp0 k hk0 hkn hkp
    have hpp := parent_lt (Nat.pos_iff_ne_zero.1 hp0)
    rw [hat (parent (parent j)), if_neg (by omega), if_neg (by omega)]
    have hup := o.except (parent j) hp0 (by omega) (by omega)
    by_cases hkj : k = j
    · rw [hkj, hat j, if_pos rfl]
      exact hup
    · have hkp' : k ≠ parent j := by
        have := parent_lt (show k ≠ 0 by omega)
        omega
      rw [hat k, if_neg hkj, if_neg hkp']
      have hk := o.except k hk0 hkn hkj
      rw [hkp] at hk
      exact Action.not_before_trans hk hup

/-- Where `up` stops, at the root or below a parent it does not fire before, the order holds. -/
theorem UpOrder.finish (o : q.UpOrder n j) (hstop : j ≠ 0 → ¬ q.less j (parent j)) :
    q.Ordered n := by
  intro k hk0 hkn
  by_cases hkj : k = j
  · subst hkj
    exact hstop (by omega)
  · exact o.except k hk0 hkn hkj

/-- `up` from an order that holds but at `j` ends in a heap. -/
theorem ordered_up (o : q.UpOrder n j) (hj : j < n) (hn : n ≤ q.heap.length) :
    (q.up j).Ordered n := by
  fun_induction q.up j with
  | case1 q => exact o.finish fun h => absurd rfl h
  | case2 q j hj0 hb ih =>
    have hpj := parent_lt hj0
    exact ih (o.move hj0 hj hn hb) (by omega) (by rw [swap_heap_length]; exact hn)
  | case3 q j hj0 hb => exact o.finish fun _ => by simpa using hb

/-! ## Down -/

@[simp] theorem parent_minChild (q : TimerQueue) (n i : Nat) : parent (q.minChild n i) = i := by
  unfold minChild
  split <;> simp

/-- The child `down` compares with is the first of `i`'s children among the first `n`. -/
theorem minChild_first (hk0 : 0 < k) (hkn : k < n) (hki : parent k = i) :
    ¬ (q.actionAt k).before (q.actionAt (q.minChild n i)) := by
  rcases child_of_parent_eq hk0 hki with rfl | rfl
  · unfold minChild
    split
    · rename_i h
      simp only [Bool.and_eq_true, decide_eq_true_eq, less_eq] at h
      exact Action.before_asymm h.2
    · simp [Action.before_irrefl]
  · unfold minChild
    split
    · simp [Action.before_irrefl]
    · rename_i h
      simpa [less_eq, hkn] using h

/-- A step of `down`: a child of `i` fires before it, and after the swap with the first child the
order holds but below that child. -/
theorem DownOrder.move (o : q.DownOrder n i) (hc : 2 * i + 1 < n) (hn : n ≤ q.heap.length)
    (hb : q.less (q.minChild n i) i) :
    (q.swap i (q.minChild n i)).DownOrder n (q.minChild n i) := by
  rw [less_eq] at hb
  have hcb := q.minChild_bounds hc
  have hat := actionAt_swap (q := q) (i := i) (j := q.minChild n i) (by omega) (by omega)
  constructor
  · intro k hk0 hkn hkc
    rw [hat k]
    by_cases hkm : k = q.minChild n i
    · -- the swapped pair, now the other way round
      subst hkm
      simpa [hat, show i ≠ q.minChild n i by omega] using Action.before_asymm hb
    · rw [if_neg hkm]
      by_cases hki : k = i
      · -- the child that moved up sits under `i`'s parent
        subst hki
        have hpk := parent_lt (show k ≠ 0 by omega)
        rw [if_pos rfl, hat (parent k), if_neg (by omega), if_neg (by omega)]
        exact o.grand hk0 _ (by omega) (by omega) (parent_minChild q n k)
      · rw [if_neg hki]
        by_cases hpk : parent k = i
        · -- the other child now sits under the child that moved up
          rw [hpk, hat i, if_neg (by omega), if_pos rfl]
          exact minChild_first hk0 hkn hpk
        · rw [hat (parent k), if_neg hkc, if_neg hpk]
          exact o.except k hk0 hkn hpk
  · intro _ k hk0 hkn hkc
    have hpk := parent_lt (show k ≠ 0 by omega)
    rw [hat k, if_neg (by omega), if_neg (by omega), parent_minChild, hat i, if_neg (by omega),
      if_pos rfl]
    have hk := o.except k hk0 hkn (by omega)
    rwa [hkc] at hk

/-- Where `down` stops, with no child among the first `n` or none that fires before it, the order
holds. -/
theorem DownOrder.finish (o : q.DownOrder n i)
    (hstop : 2 * i + 1 < n → ¬ q.less (q.minChild n i) i) : q.Ordered n := by
  intro k hk0 hkn
  by_cases hki : parent k = i
  · have hc : 2 * i + 1 < n := by
      rcases child_of_parent_eq hk0 hki with rfl | rfl <;> omega
    rw [hki]
    exact Action.not_before_trans (minChild_first hk0 hkn hki) (hstop hc)
  · exact o.except k hk0 hkn hki

/-- `down` from an order that holds but below `i` ends in a heap. -/
theorem ordered_down (o : q.DownOrder n i) (hn : n ≤ q.heap.length) : (q.down n i).1.Ordered n := by
  fun_induction q.down n i with
  | case1 q i hc hb ih => exact ih (o.move hc hn hb) (by rw [swap_heap_length]; exact hn)
  | case2 q i hc hb => exact o.finish fun _ => by simpa using hb
  | case3 q i hc => exact o.finish fun h => absurd h hc

theorem down_of_less (hc : 2 * i + 1 < n) (hb : q.less (q.minChild n i) i) :
    q.down n i = (q.swap i (q.minChild n i)).down n (q.minChild n i) := by
  rw [down, if_pos hc, if_pos hb]

theorem down_of_stop (h : ¬ (2 * i + 1 < n ∧ q.less (q.minChild n i) i = true)) :
    q.down n i = (q, i) := by
  rw [down]
  split_ifs with hc hb
  · exact absurd ⟨hc, hb⟩ h
  · rfl
  · rfl

/-- `down` never stops above where it started. -/
theorem le_down_snd (q : TimerQueue) (n i : Nat) : i ≤ (q.down n i).2 := by
  fun_induction q.down n i with
  | case1 q i hc _ ih => have := q.minChild_bounds hc; omega
  | case2 => exact le_refl _
  | case3 => exact le_refl _

/-- If the replaced action fires after its first child, it is no earlier than its parent either,
so only its children are out of order. -/
theorem Replaced.downOrder (o : q.Replaced n i) (hc : 2 * i + 1 < n)
    (hb : q.less (q.minChild n i) i) : q.DownOrder n i := by
  rw [less_eq] at hb
  refine ⟨?_, o.grand⟩
  intro k hk0 hkn hki
  by_cases hk : k = i
  · subst hk
    have hcb := q.minChild_bounds hc
    have hm := o.grand hk0 _ (by omega) (by omega) (parent_minChild q n k)
    exact fun h => hm (Action.before_trans hb h)
  · exact o.except k hk0 hkn hk hki

/-- If the replaced action fires no later than its first child, it is no later than its children,
so only its parent may be out of order. -/
theorem Replaced.upOrder (o : q.Replaced n i)
    (hstop : 2 * i + 1 < n → ¬ q.less (q.minChild n i) i) : q.UpOrder n i := by
  refine ⟨?_, o.grand⟩
  intro k hk0 hkn hk
  by_cases hki : parent k = i
  · have hc : 2 * i + 1 < n := by
      rcases child_of_parent_eq hk0 hki with rfl | rfl <;> omega
    rw [hki]
    exact Action.not_before_trans (minChild_first hk0 hkn hki) (hstop hc)
  · exact o.except k hk0 hkn hk hki

/-- `sift` after the action at `i` was replaced or changed ends in a heap: `down` moves it if a
child fires before it, and `up` otherwise. -/
theorem ordered_sift (o : q.Replaced n i) (hi : i < n) (hn : n ≤ q.heap.length) :
    (q.sift n i).Ordered n := by
  rw [sift_eq]
  by_cases hmove : 2 * i + 1 < n ∧ q.less (q.minChild n i) i = true
  · obtain ⟨hc, hb⟩ := hmove
    have hgt : i < (q.down n i).2 := by
      rw [down_of_less hc hb]
      have := le_down_snd (q.swap i (q.minChild n i)) n (q.minChild n i)
      have := q.minChild_bounds hc
      omega
    rw [if_pos hgt]
    exact ordered_down (o.downOrder hc hb) hn
  · rw [down_of_stop hmove, if_neg (lt_irrefl i)]
    exact ordered_up (o.upOrder fun hc hb => hmove ⟨hc, by simpa using hb⟩) hi hn

end TimerQueue

end HostDispatch
