import HostDispatch.Provider.Basic
import HostDispatch.Validation
import HostDispatch.Log.Record

/-!
# Interval timers

A timer fires once after its period (one-off), or repeatedly every period (periodic), in which case
an initial delay, when positive, comes before the first firing. It is checked when made: the mode
must be one of the two and neither duration negative. Running it arms its first action; each
firing dispatches to its controller, and a controller that answers no destroys the timer. Destroying
cancels what is armed, destroys the continuation and releases the controller, once.
-/

namespace HostDispatch

/-- How a timer repeats. -/
inductive TimerMode where
  | oneOff
  | periodic
deriving DecidableEq, Repr, Inhabited

/-- The name of a numbered mode: 0 and 1 are one-off and periodic, others show their number. -/
def TimerMode.nameOfInt (n : Int) : String :=
  if n = 0 then "one_off" else if n = 1 then "periodic" else "mode(" ++ toString n ++ ")"

/-- The name of a mode. -/
def TimerMode.name : TimerMode → String
  | .oneOff => "one_off"
  | .periodic => "periodic"

/-- The state of a timer. -/
structure TimerTask where
  name : String
  mode : TimerMode
  period : Int
  initial : Int
  /-- The id of its continuation. -/
  cont : Nat
  destroyed : Bool := false
  ran : Bool := false
  controller : Option ControllerRef := none
  initialAction : Option Nat := none
  periodicAction : Option Nat := none
  logger : Log.Logger
deriving Inhabited

namespace TimerTask

/-- Check the settings of a new timer, in order: the port, the mode, the period, the initial delay. -/
def check (hasPort : Bool) (mode period initial : Int) : Except Fault TimerMode := do
  if !hasPort then throw (Validation.missing "timer" "port")
  let m ← if mode = 0 then pure TimerMode.oneOff else if mode = 1 then pure .periodic
    else throw (.invalid "timer" "mode" (TimerMode.nameOfInt mode) "must be OneOff or Periodic" "")
  Validation.nonNegativeDuration "timer" "period" period
  Validation.nonNegativeDuration "timer" "initial_period" initial
  pure m

/-- A timer on a continuation; the name `timer` when none is given. -/
def make (name : String) (mode : TimerMode) (period initial : Int) (cont : Nat)
    (logger : Log.Logger) : TimerTask :=
  let name := if name = "" then "timer" else name
  { name := name, mode := mode, period := period, initial := initial, cont := cont,
    logger := logger.withFields
      [Log.text "component" "timer", Log.text "timer" name, Log.text "mode" mode.name] }

/-- Whether the first action is a one-shot: always for one-off timers, and for periodic ones with
an initial delay. -/
def startsOnce (t : TimerTask) : Bool := t.mode == .oneOff || t.initial > 0

/-- The delay of the first one-shot action. -/
def firstDelay (t : TimerTask) : Int := if t.mode == .periodic then t.initial else t.period

/-- Which actions a timer holds: its one-shot and its repeating action; none once destroyed. -/
def armed (t : TimerTask) : Bool × Bool :=
  (!t.destroyed && t.initialAction.isSome, !t.destroyed && t.periodicAction.isSome)

/-- The state reported for a timer. -/
def info (t : TimerTask) : Json :=
  .obj [("type", .str "timer"), ("mode", .str t.mode.name), ("period", .int t.period),
        ("initial", .int t.initial), ("destroyed", .bool t.destroyed),
        ("armed_initial", .bool t.armed.1), ("armed_periodic", .bool t.armed.2)]

end TimerTask

end HostDispatch
