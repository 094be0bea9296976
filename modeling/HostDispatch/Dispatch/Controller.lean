import HostDispatch.Log.Record

/-!
# Dispatch controllers, promises and trackers

A controller hands each completion of a provider to a receiver. It starts with two references, one
held by the provider and one by the promise given to the caller, and is live while it is not
disabled and some reference remains. Releasing the last reference disables it; a release past zero
is undone and reported. Closing a promise disables its controller and releases the promise's
reference, once however often it is closed.

A tracker collects promises so that they can be closed together. Once closed, a tracker closes
every promise it is given instead of keeping it.
-/

namespace HostDispatch

/-- Where a controller's completions go: a receiver that runs a script, or a publisher. -/
inductive Receiver where
  /-- A scripted receiver for the promise with this index. -/
  | script (promise : Nat) (steps : List Json)
  /-- The publisher with this index. -/
  | publisher (index : Nat)
deriving Inhabited

/-- A dispatch controller made by an execution. -/
structure Controller where
  name : String
  receiver : Receiver
  /-- The index of the provider it was made for. -/
  provider : Nat
  /-- Whether dispatches are serialized by a lock. -/
  locked : Bool := false
  refs : Int := 2
  disabled : Bool := false
  /-- How many times its receiver has been called. -/
  received : Nat := 0
  logger : Log.Logger
deriving Inhabited

namespace Controller

/-- A controller with the name `default` when none is given. -/
def make (name : String) (receiver : Receiver) (provider : Nat) (locked : Bool)
    (logger : Log.Logger) : Controller :=
  let name := if name = "" then "default" else name
  { name := name, receiver := receiver, provider := provider, locked := locked,
    logger := logger.withFields [Log.text "component" "async", Log.text "controller" name] }

/-- Whether the controller still delivers. -/
def live (c : Controller) : Bool := !c.disabled && c.refs > 0

/-- Stop delivering, whatever the references. -/
def disable (c : Controller) : Controller := { c with disabled := true }

/-- Drop a reference: the last one disables the controller; one past zero is undone. Also returns
the severity and message of the line it logs. -/
def release (c : Controller) : Controller × Severity × String :=
  let n := c.refs - 1
  if n = 0 then ({ c with refs := 0, disabled := true }, .debug, "controller released")
  else if n < 0 then (c, .warn, "controller released more times than referenced")
  else ({ c with refs := n }, .debug, "")

end Controller

/-- A promise: the controller it closes and whether it was closed. -/
structure Promise where
  controller : Nat
  closed : Bool := false
deriving Inhabited

/-- A tracker: the promises it holds and whether it was closed. -/
structure Tracker where
  promises : List Nat := []
  closed : Bool := false
deriving Inhabited

namespace Tracker

/-- Track a promise; returns whether the promise must be closed at once instead. -/
def track (t : Tracker) (q : Nat) : Tracker × Bool :=
  if t.closed then (t, true) else ({ t with promises := t.promises ++ [q] }, false)

/-- Close the tracker; returns the promises to close, in the order they were tracked. -/
def close (t : Tracker) : Tracker × List Nat := ({ promises := [], closed := true }, t.promises)

/-- The number of promises held. -/
def size (t : Tracker) : Nat := t.promises.length

end Tracker

end HostDispatch
