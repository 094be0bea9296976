/-!
# Contexts with an optional deadline

A context derived from a parent with a timeout has a deadline when the timeout is positive or the
parent has one, and none otherwise. It is done once it is canceled, its parent is done or its
deadline passes; the first of these is the cause it reports. A timeout shorter than `instant` has
passed by the time the context exists.
-/

namespace HostDispatch

/-- Why a context is done. -/
inductive DoneCause where
  | canceled
  | deadlineExceeded
deriving DecidableEq, Repr, Inhabited

/-- The message of a cause. -/
def DoneCause.message : DoneCause → String
  | .canceled => "context canceled"
  | .deadlineExceeded => "context deadline exceeded"

/-- A derived context: whether it has a deadline, and why it is done, if it is. -/
structure Context where
  hasDeadline : Bool
  done : Option DoneCause
deriving DecidableEq, Repr, Inhabited

namespace Context

/-- Timeouts below this many nanoseconds have passed when the context is made. -/
def instant : Int := 1000

/-- The context derived with a timeout; one that is not positive gives no deadline. -/
def derive (timeout : Int) : Context :=
  { hasDeadline := timeout > 0,
    done := if 0 < timeout && timeout < instant then some .deadlineExceeded else none }

/-- The background context: no deadline, never done. -/
def background : Context := ⟨false, none⟩

/-- The context derived from a parent with a timeout: it keeps the parent's deadline and why the
parent is done, if it is. -/
def within (parent : Context) (timeout : Int) : Context :=
  { hasDeadline := parent.hasDeadline || (derive timeout).hasDeadline,
    done := parent.done.or (derive timeout).done }

/-- Finish a context for a cause, unless it is already done. -/
def finish (c : Context) (cause : DoneCause) : Context :=
  match c.done with
  | some _ => c
  | none => { c with done := some cause }

/-- Cancel a context (or its parent). -/
def cancel (c : Context) : Context := c.finish .canceled

/-- Let the deadline of a context pass, if it has one. -/
def expire (c : Context) : Context := if c.hasDeadline then c.finish .deadlineExceeded else c

/-- Whether a context is done. -/
def isCanceled (c : Context) : Bool := c.done.isSome

/-- Whether a context is done because its deadline passed. -/
def isTimedOut (c : Context) : Bool := c.done == some .deadlineExceeded

/-- The message of why a context is done, if it is. -/
def err (c : Context) : Option String := c.done.map DoneCause.message

end Context

end HostDispatch
