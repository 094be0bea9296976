import HostDispatch.Scheduler.Loop
import HostDispatch.Request.Observe
import HostDispatch.Text.Integer
import HostDispatch.Answer

/-!
# Loop requests

A `loop` request makes a real-time loop from `config` and runs `steps` on it. Continuations and
actions are numbered from 0 in the order the steps make them, a failed step taking its number too;
a failed continuation or action is missing when a later step names it, as is one named `null`.

Waiting steps (`await`, `await_pending`, `await_metric`) move the loop's timeline until what they
wait for holds, for at most five seconds. When log lines were asked for, the loop is closed after
the last step and its lines are shown sorted by their printed form, as lines written from several
workers are gathered.
-/

namespace HostDispatch

namespace Request

/-- The loop of a request and the continuations and actions its steps made. -/
structure LoopRun where
  loop : Loop
  conts : Array (Option Nat) := #[]
  actions : Array (Option (Nat × Kind)) := #[]
deriving Inhabited

/-- The monad of loop steps; a fault is a request that cannot be read. -/
abbrev LoopM := EStateM String LoopRun

/-- Read a request field. -/
def readField {α : Type} (r : Except String α) : LoopM α :=
  match r with
  | .ok a => pure a
  | .error e => throw e

/-- The entry of a numbered slot, or nothing for `null`. -/
def slotArg {α : Type} (s : Json) (key what : String) (xs : Array (Option α)) : LoopM (Option α) := do
  if isNull s key then return none
  let i ← readField (int s key)
  if h : 0 ≤ i ∧ i.toNat < xs.size then return xs[i.toNat]
  else throw ("no " ++ what ++ " " ++ toString i)

/-- Change the loop. -/
def modifyLoop (f : Loop → Loop) : LoopM Unit := modify fun r => { r with loop := f r.loop }

/-- The answer to an arming step. -/
def armStep (s : Json) (kind : Kind) : LoopM Json := do
  let cont ← slotArg s "c" "continuation" (← get).conts
  let d ← readField (int s "d")
  let r ← get
  let slotIndex := r.actions.size
  match r.loop.schedule cont kind d with
  | .ok (id, l) =>
    set { r with loop := l, actions := r.actions.push (some (id, kind)) }
    return .obj [("a", .nat slotIndex), ("id", .nat id), ("kind", .str kind.name)]
  | .error f =>
    set { r with actions := r.actions.push none }
    return Answer.fault f

/-- The answer of a wait that gave up. -/
def gaveUp (fields : List (String × Json)) : Json := .obj (("error", .str "timeout") :: fields)

/-- Run one step. -/
def loopStep (s : Json) : LoopM Json := do
  let name ← readField (str s "do")
  match name with
  | "new_cont" =>
    let handler : Option Counter ← if ← readField (bool s "nil_handler") then pure none
      else pure (some { destroyOn := (← readField (int? s "destroy_on")).map Int.toNat,
                        panicOn := (← readField (int? s "panic_on")).map Int.toNat })
    let r ← get
    let slotIndex := r.conts.size
    match r.loop.newContinuation handler with
    | .ok (id, l) =>
      set { r with loop := l, conts := r.conts.push (some id) }
      return .obj [("c", .nat slotIndex)]
    | .error f =>
      set { r with conts := r.conts.push none }
      return Answer.fault f
  | "once" => armStep s .once
  | "every" => armStep s .every
  | "cancel" =>
    let a ← slotArg s "a" "action" (← get).actions
    let r ← get
    let (res, l) := r.loop.cancel (a.map (·.1))
    set { r with loop := l }
    return Answer.okOr res
  | "destroy" =>
    let c ← slotArg s "c" "continuation" (← get).conts
    modifyLoop (·.destroy c)
    return Answer.ok
  | "pending" => return .obj [("pending", .nat (← get).loop.pending)]
  | "runs" =>
    let c ← slotArg s "c" "continuation" (← get).conts
    return .obj [("runs", .nat ((c.map (← get).loop.runs).getD 0))]
  | "await" =>
    let c ← slotArg s "c" "continuation" (← get).conts
    let n ← readField (int s "n")
    let runsOf (l : Loop) : Nat := (c.map l.runs).getD 0
    let (ok, l) := (← get).loop.await fun l => (runsOf l : Int) ≥ n
    modifyLoop fun _ => l
    if ok then return .obj [("runs", .nat (runsOf l))]
    else return gaveUp [("runs", .nat (runsOf l))]
  | "await_pending" =>
    let n ← readField (int s "n")
    let (ok, l) := (← get).loop.await fun l => (l.pending : Int) = n
    modifyLoop fun _ => l
    if ok then return .obj [("pending", .int n)]
    else return gaveUp [("pending", .nat l.pending)]
  | "await_metric" =>
    let line ← readField (str s "line")
    let (ok, l) := (← get).loop.await fun l => l.metricLines.contains line
    modifyLoop fun _ => l
    if ok then return Answer.ok
    else return gaveUp [("metrics", .arr (l.metricLines.map .str))]
  | "close" =>
    modifyLoop Loop.close
    return Answer.ok
  | "metrics" =>
    let lines := (← get).loop.metricLines
    return .obj [("metrics", Answer.lines lines)]
  | other => throw ("unknown step " ++ Text.quote other)

/-- A number as it is printed in a log line gathered for sorting. -/
def numberForm (t : String) : String :=
  match Integer.read t with
  | .ok n => Decimal.compact (Float.ofInt n)
  | .error _ => t

mutual
/-- The printed form of a value read from a log line: objects as `map[k:v ...]` by key. -/
def printedForm : Json → String
  | .null => "<nil>"
  | .bool b => if b then "true" else "false"
  | .num t => numberForm t
  | .str s => s
  | .arr xs => "[" ++ " ".intercalate (printedItems xs) ++ "]"
  | .obj fs =>
    "map[" ++ " ".intercalate (((printedMembers fs).foldr Json.insertByKey []).map (·.2)) ++ "]"

/-- The printed forms of items. -/
def printedItems : List Json → List String
  | [] => []
  | x :: xs => printedForm x :: printedItems xs

/-- The keys of members with their printed forms, `key:value`. -/
def printedMembers : List (String × Json) → List (String × String)
  | [] => []
  | (k, v) :: rest => (k, k ++ ":" ++ printedForm v) :: printedMembers rest
end

/-- Insert a line into a list sorted by printed form. -/
def insertPrinted (j : Json) : List Json → List Json
  | [] => [j]
  | x :: xs => if printedForm j < printedForm x then j :: x :: xs else x :: insertPrinted j xs

/-- How a loop delivers, by name. -/
def deliveryArg (c : Json) : Except String Delivery := do
  let p ← str c "pool"
  if p = "" || p = "own" then return .own
  else if p = "external" then return .external
  else if p = "shutdown" then return .shutDown
  else throw (fieldFault "pool" ("unknown pool " ++ Text.quote p))

/-- The configuration of a loop request. -/
def loopConfigArg (req : Json) : Except String LoopConfig := do
  let c := (← obj? req "config").getD (.obj [])
  return { name := ← str c "name", workers := ← int c "workers", queueSize := ← int c "queue_size",
           minPeriod := ← int c "min_period", maxSleep := ← int c "max_sleep",
           delivery := ← deliveryArg c }

/-- The answer to `loop`. -/
def loopAnswer (req : Json) : Except String Json := do
  let cfg ← loopConfigArg req
  let registry ← registryArg req
  let logger ← loggerArg req
  let steps ← list req "steps"
  match registry with
  | some (.error e) => return Answer.panic e
  | _ =>
  match Loop.make cfg (registry.bind Except.toOption) logger with
  | .error f => return Answer.fault f
  | .ok l =>
    match (steps.mapM loopStep).run { loop := l } with
    | .error e _ => throw e
    | .ok results r =>
      let logs := if logger.sink.isSome then
          [("logs", Json.arr (r.loop.close.lines.toList.foldr insertPrinted []))]
        else []
      return .obj ([("steps", .arr results)] ++ logs)

end Request

end HostDispatch
