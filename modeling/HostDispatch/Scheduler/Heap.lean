import HostDispatch.Scheduler.Queue

/-!
# The timer queue as a binary heap

`Queue` sees the pending actions as a list sorted in firing order. Underneath, the timer queue
keeps them in a binary min-heap: a list of action ids in which the action at each position `i > 0`
fires no earlier, by `Action.before`, than the one at its parent `(i - 1) / 2`. Each armed action
also has a record of its own, found by its id, which holds its position in the heap (-1 once it has
left) and its state: pending, fired or canceled. Canceling an action reads its position there and
takes it out of the heap without a search.

The heap operations are the usual ones. `up` moves the action at a position towards the root while
it fires before its parent; `down` moves it towards the leaves, within the first `n` positions,
while a child fires before it, and answers where it stopped. `push`, `pop`, `remove` and `fix` are
built from these and from `swap`, which exchanges two positions and writes each action's new
position into its record.
-/

namespace HostDispatch

/-- Where an armed action stands: waiting in the heap, fired once and for all, or canceled. -/
inductive ActionState where
  | pending
  | fired
  | canceled
deriving DecidableEq, Repr, Inhabited

/-- The record of an armed action: the action, its position in the heap (-1 out of it) and its
state. -/
structure Slot where
  action : Action
  index : Int
  state : ActionState
deriving Inhabited

/-- What an id that was never armed reads as: an action out of the heap that is not pending. -/
def Slot.unarmed : Slot := { action := default, index := -1, state := .canceled }

/-- The timer queue: the record of every action by id, the ids of the pending actions in heap
order, the last id handed out, and whether a repeating action that fell more than a period behind
skips the firings it missed. -/
structure TimerQueue where
  slots : Nat → Slot
  heap : List Nat
  lastId : Nat
  skipMissed : Bool

namespace TimerQueue

/-- The parent of a position of the heap; the root is its own parent. -/
def parent (i : Nat) : Nat := (i - 1) / 2

theorem parent_lt {i : Nat} (h : i ≠ 0) : parent i < i := by
  unfold parent; omega

/-- The queue with no action armed. -/
def empty (skipMissed : Bool) : TimerQueue :=
  { slots := fun _ => Slot.unarmed, heap := [], lastId := 0, skipMissed := skipMissed }

/-- Change the record of one action. -/
def modify (q : TimerQueue) (id : Nat) (f : Slot → Slot) : TimerQueue :=
  { q with slots := fun k => if k = id then f (q.slots k) else q.slots k }

/-- Move the due time of one action. -/
def setDue (q : TimerQueue) (id : Nat) (due : Time) : TimerQueue :=
  q.modify id fun s => { s with action := { s.action with due := due } }

/-- The id at a position of the heap; past its end, 0, which no action has. -/
def idAt (q : TimerQueue) (i : Nat) : Nat := q.heap.getD i 0

/-- The action at a position of the heap. -/
def actionAt (q : TimerQueue) (i : Nat) : Action := (q.slots (q.idAt i)).action

/-- The action at `i` fires before the one at `j`. -/
def less (q : TimerQueue) (i j : Nat) : Bool := (q.actionAt i).before (q.actionAt j)

/-- Exchange two positions, writing each action's new position into its record. -/
def swap (q : TimerQueue) (i j : Nat) : TimerQueue :=
  let a := q.idAt i
  let b := q.idAt j
  let q := { q with heap := (q.heap.set i b).set j a }
  (q.modify b fun s => { s with index := i }).modify a fun s => { s with index := j }

/-- Move the action at `j` towards the root while it fires before its parent. -/
def up (q : TimerQueue) (j : Nat) : TimerQueue :=
  if j = 0 then q
  else if q.less j (parent j) then (q.swap (parent j) j).up (parent j)
  else q
termination_by j
decreasing_by exact parent_lt ‹¬j = 0›

/-- The child of `i` that `down` compares it with, among the first `n` positions: the right one if
it is there and fires before the left one. -/
def minChild (q : TimerQueue) (n i : Nat) : Nat :=
  if 2 * i + 2 < n && q.less (2 * i + 2) (2 * i + 1) then 2 * i + 2 else 2 * i + 1

theorem minChild_bounds (q : TimerQueue) {n i : Nat} (h : 2 * i + 1 < n) :
    2 * i + 1 ≤ q.minChild n i ∧ q.minChild n i < n := by
  unfold minChild
  split <;> simp_all <;> omega

/-- Move the action at `i` towards the leaves, within the first `n` positions, while a child fires
before it; the queue after, and the position where it stopped. -/
def down (q : TimerQueue) (n i : Nat) : TimerQueue × Nat :=
  if 2 * i + 1 < n then
    if q.less (q.minChild n i) i then (q.swap i (q.minChild n i)).down n (q.minChild n i)
    else (q, i)
  else (q, i)
termination_by n - i
decreasing_by have := q.minChild_bounds ‹2 * i + 1 < n›; omega

/-- Move the action at `i` down within the first `n` positions, or up if it did not move down:
what restores the order after the action at `i` was replaced or changed. -/
def sift (q : TimerQueue) (n i : Nat) : TimerQueue :=
  let r := q.down n i
  if i < r.2 then r.1 else r.1.up i

/-- Put an action at the end of the heap and move it up to its place. -/
def push (q : TimerQueue) (id : Nat) : TimerQueue :=
  let n := q.heap.length
  { q.modify id (fun s => { s with index := n }) with heap := q.heap ++ [id] }.up n

/-- Take the last action off the heap; it has no position any more. -/
def popLast (q : TimerQueue) : TimerQueue :=
  let id := q.idAt (q.heap.length - 1)
  { q.modify id (fun s => { s with index := -1 }) with heap := q.heap.dropLast }

/-- Take the root off the heap: exchange it with the last action, move that one down among the
others, and drop the last. -/
def pop (q : TimerQueue) : TimerQueue :=
  let n := q.heap.length - 1
  ((q.swap 0 n).down n 0).1.popLast

/-- Take the action at position `i` off the heap: exchange it with the last action, put that one in
its place among the others, and drop the last. -/
def remove (q : TimerQueue) (i : Nat) : TimerQueue :=
  let n := q.heap.length - 1
  if n = i then q.popLast else ((q.swap i n).sift n i).popLast

/-- Restore the heap order after the action at `i` changed its due time. -/
def fix (q : TimerQueue) (i : Nat) : TimerQueue := q.sift q.heap.length i

/-- Arm an action for a continuation, due a duration after `now`; a repeating action keeps that
duration as its period. Returns the action's id. -/
def arm (q : TimerQueue) (cont : Nat) (kind : Kind) (d : Int) (now : Time) : Nat × TimerQueue :=
  let id := q.lastId + 1
  let a : Action := { id := id, cont := cont, kind := kind,
                      period := if kind = .every then d else 0, due := now.add d }
  let q := { q.modify id (fun _ => { action := a, index := 0, state := .pending }) with lastId := id }
  (id, q.push id)

/-- Cancel a pending action, found by its record; `none` when there is no action, or it is not
pending or has no position. -/
def cancel (q : TimerQueue) : Option Nat → Option TimerQueue
  | none => none
  | some id =>
    let s := q.slots id
    if s.state ≠ .pending ∨ s.index < 0 then none
    else some ((q.remove s.index.toNat).modify id fun s => { s with state := .canceled })

/-- Take the root if it is due by `limit`. A one-shot action leaves the heap and is marked fired;
a repeating one moves one period on (or one period past `limit`, when the queue skips missed
firings and that is still not after `limit`), and the heap is fixed at its position. -/
def popDue (q : TimerQueue) (limit : Time) : Option (Firing × TimerQueue) :=
  match q.heap with
  | [] => none
  | id :: _ =>
    let s := q.slots id
    let a := s.action
    if a.due.after limit then none
    else
      let f : Firing := { action := a.id, cont := a.cont, kind := a.kind, due := a.due }
      match a.kind with
      | .once => some (f, q.pop.modify id fun s => { s with state := .fired })
      | .every =>
        let next := a.due.add a.period
        let next := if q.skipMissed && !next.after limit then limit.add a.period else next
        some (f, (q.setDue id next).fix s.index.toNat)

/-- Cancel every pending action at once, returning how many there were. -/
def dropAll (q : TimerQueue) : Nat × TimerQueue :=
  let q' := q.heap.foldl (fun q id => q.modify id fun s => { s with state := .canceled, index := -1 }) q
  (q.heap.length, { q' with heap := [] })

/-- When the root is due. -/
def peek (q : TimerQueue) : Option Time := q.heap.head?.map fun id => (q.slots id).action.due

/-- The number of pending actions. -/
def size (q : TimerQueue) : Nat := q.heap.length

/-- One call on the timer queue, as its owners make them. -/
inductive Op where
  | arm (cont : Nat) (kind : Kind) (d : Int) (now : Time)
  | cancel (a : Option Nat)
  | popDue (limit : Time)
  | dropAll

/-- The queue after one call; a refused cancel, or a `popDue` with nothing due, leaves it as it
was. -/
def step (q : TimerQueue) : Op → TimerQueue
  | .arm cont kind d now => (q.arm cont kind d now).2
  | .cancel a => (q.cancel a).getD q
  | .popDue limit => ((q.popDue limit).map (·.2)).getD q
  | .dropAll => q.dropAll.2

/-- The queue after a sequence of calls. -/
def run (q : TimerQueue) (ops : List Op) : TimerQueue := ops.foldl step q

end TimerQueue

end HostDispatch
