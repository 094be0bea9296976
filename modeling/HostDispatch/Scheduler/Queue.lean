import HostDispatch.Time.Basic

/-!
# The timer queue

Pending actions wait in a list kept sorted by due instant, and by action id among equal due
instants. Ids are handed out in arming order and never reused, so the order is strict and the head
is always the action to fire first: the first armed of those due earliest.

`popDue` takes the head if it is due by a limit. A one-shot action leaves the queue; a repeating
one moves one period on (or, when `skipMissed` is set and that is still not after the limit, one
period past the limit) and takes its place again.
-/

namespace HostDispatch

/-- Whether an action fires once or repeatedly. -/
inductive Kind where
  | once
  | every
deriving DecidableEq, Repr, Inhabited

namespace Kind

/-- The name of a kind. -/
def name : Kind → String
  | .once => "once"
  | .every => "every"

/-- The kind with a number, as numbered kinds are read: 1 is repeating, anything else once. -/
def ofInt (n : Int) : Kind := if n = 1 then .every else .once

end Kind

/-- What a delivered firing says happened. -/
inductive Event where
  | timeout
  | interval
deriving DecidableEq, Repr, Inhabited

/-- The event a firing of this kind delivers. -/
def Kind.event : Kind → Event
  | .once => .timeout
  | .every => .interval

/-- The name of an event. -/
def Event.name : Event → String
  | .timeout => "timeout"
  | .interval => "interval"

/-- The name of a numbered event: 1 and 2 are timeout and interval, anything else unknown. -/
def Event.nameOfInt (n : Int) : String :=
  if n = 1 then "timeout" else if n = 2 then "interval" else "unknown"

/-- A pending action: its id, the continuation it fires, its kind, its period (zero for a one-shot
action) and when it is next due. -/
structure Action where
  id : Nat
  cont : Nat
  kind : Kind
  period : Int
  due : Time
deriving Inhabited

/-- `a` fires before `b`: it is due earlier, or as early and was armed first. -/
def Action.before (a b : Action) : Bool :=
  a.due.ns < b.due.ns || (a.due.ns == b.due.ns && a.id < b.id)

/-- One firing taken from the queue. -/
structure Firing where
  action : Nat
  cont : Nat
  kind : Kind
  due : Time
deriving Inhabited

/-- The pending actions in firing order, and the last id handed out. -/
structure Queue where
  entries : List Action := []
  lastId : Nat := 0
deriving Inhabited

namespace Queue

/-- Insert an action at its place in firing order. -/
def insert (a : Action) : List Action → List Action
  | [] => [a]
  | b :: rest => if a.before b then a :: b :: rest else b :: insert a rest

/-- Arm an action for a continuation, due a duration after `now`; a repeating action keeps that
duration as its period. Returns the action's id. -/
def arm (q : Queue) (cont : Nat) (kind : Kind) (d : Int) (now : Time) : Nat × Queue :=
  let id := q.lastId + 1
  let a : Action := { id := id, cont := cont, kind := kind,
                      period := if kind = .every then d else 0, due := now.add d }
  (id, { entries := insert a q.entries, lastId := id })

/-- Whether an action is pending. -/
def pending (q : Queue) (id : Nat) : Bool := q.entries.any (·.id == id)

/-- The pending action with an id. -/
def find (q : Queue) (id : Nat) : Option Action := q.entries.find? (·.id == id)

/-- Remove a pending action; `none` when it is not pending. -/
def cancel (q : Queue) (id : Nat) : Option Queue :=
  if q.pending id then some { q with entries := q.entries.filter (·.id != id) } else none

/-- The due time of the first action. -/
def peek (q : Queue) : Option Time := q.entries.head?.map (·.due)

/-- The number of pending actions. -/
def size (q : Queue) : Nat := q.entries.length

/-- Take the first action if it is due by `limit`. -/
def popDue (q : Queue) (limit : Time) (skipMissed : Bool) : Option (Firing × Queue) :=
  match q.entries with
  | [] => none
  | a :: rest =>
    if a.due.after limit then none
    else
      let f : Firing := { action := a.id, cont := a.cont, kind := a.kind, due := a.due }
      match a.kind with
      | .once => some (f, { q with entries := rest })
      | .every =>
        let next := a.due.add a.period
        let next := if skipMissed && !next.after limit then limit.add a.period else next
        some (f, { q with entries := insert { a with due := next } rest })

/-- Drop every pending action, returning how many there were. -/
def dropAll (q : Queue) : Nat × Queue := (q.entries.length, { q with entries := [] })

end Queue

end HostDispatch
