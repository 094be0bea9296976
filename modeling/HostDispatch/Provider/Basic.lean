import HostDispatch.Data.Json

/-!
# What providers share

A provider reports each completion to the controller it was run with. That controller is either
one made by an execution, or a stand-in whose answers and script are given: the stand-in counts its
dispatches and releases, and its k-th dispatch answers the k-th of its answers, the last one once
they run out, and yes when there are none.

A provider reaches the clock through a gate that may be set to refuse calls: after a given number of
calls to arm a one-shot action, a repeating action or a continuation, every further call of that
kind is refused as closed.
-/

namespace HostDispatch

/-- The controller a provider dispatches to. -/
inductive ControllerRef where
  /-- The stand-in controller with this index. -/
  | stub (index : Nat)
  /-- The controller with this index, made by an execution. -/
  | made (index : Nat)
deriving DecidableEq, Inhabited

/-- A stand-in controller. -/
structure Stub where
  answers : List Bool
  script : List Json
  dispatches : Nat := 0
  releases : Nat := 0
deriving Inhabited

/-- The answer to the k-th dispatch (from 1). -/
def Stub.answer (s : Stub) (k : Nat) : Bool :=
  match s.answers with
  | [] => true
  | xs => xs.getD (k - 1) (xs.getLast?.getD true)

/-- The calls a gate lets through: a limit for each kind of call, and the calls made. -/
structure Gate where
  onceLimit : Option Nat := none
  everyLimit : Option Nat := none
  contLimit : Option Nat := none
  onceCalls : Nat := 0
  everyCalls : Nat := 0
  contCalls : Nat := 0
deriving Inhabited

/-- Whether a call is let through after `calls` earlier calls. -/
def Gate.admits (limit : Option Nat) (calls : Nat) : Bool :=
  match limit with
  | none => true
  | some l => calls < l

end HostDispatch
