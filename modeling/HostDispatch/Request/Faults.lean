import HostDispatch.Request.Field
import HostDispatch.Answer
import HostDispatch.Validation
import HostDispatch.Text.Decimal

/-!
# Fault requests

Requests that build faults from a description and report on them, and that run the setting checks.
A described value is shown as its type shows it: nothing as `<nil>`, a duration in its text form, a
floating-point number in shortest form, others as written.
-/

namespace HostDispatch

namespace Request

/-- A value as a setting shows it, read by its declared type. -/
def shownValue (j : Json) (valueType : String) : Except String String := do
  if valueType = "nil" then return "<nil>"
  else if valueType = "string" || valueType = "" then str j "value"
  else if valueType = "int" then return toString (← int j "value")
  else if valueType = "duration" then return Duration.text (← int j "value")
  else if valueType = "bool" then return toString (← bool j "value")
  else if valueType = "float" then
    match j.get? "value" with
    | some (.num t) =>
      match Decimal.ofText? t with
      | some f => return Decimal.compact f
      | none => throw (fieldFault "value" ("not a number: " ++ t))
    | none | some .null => return "0"
    | some _ => throw (fieldFault "value" "not a number")
  else throw ("unknown value_type " ++ Text.quote valueType)

/-- The sentinel of a name. -/
def sentinelNamed (name : String) : Except String Sentinel :=
  match Sentinel.all.find? (·.name == name) with
  | some s => .ok s
  | none => .error ("unknown sentinel " ++ Text.quote name)

/-- The fault under the last `cause` member of an object, with `build` reading it. -/
def causeOf (build : Json → Except String (Option Fault)) (j : Json) :
    Except String (Option Fault) :=
  match j.get? "cause" with
  | some c => build c
  | none => .ok none

/-- The fault a description builds, or none for `null`. Each nested description is read with
less fuel; the length of the description's text is enough for all of them. -/
def faultOf : Nat → Json → Except String (Option Fault)
  | 0, _ => .error "error spec nested too deeply"
  | _ + 1, .null => .ok none
  | n + 1, j@(.obj _) =>
    match j.get? "sentinel", j.get? "text", j.get? "validation", j.get? "operation", j.get? "join" with
    | some (.str name), _, _, _, _ => do pure (some (.sentinel (← sentinelNamed name)))
    | _, some (.str t), _, _, _ => .ok (some (.plain t))
    | _, _, some v, _, _ => do
      let valueType ← str v "value_type"
      let shown ← shownValue v (if v.has "value_type" then valueType else "string")
      pure (some (.invalid (← str v "module") (← str v "field") shown (← str v "reason")
        (← str v "hint")))
    | _, _, _, some o, _ => do
      let cause ← causeOf (faultOf n) o
      pure (some (.operation (← str o "module") (← str o "operation") cause (← str o "context")))
    | _, _, _, _, some (.arr items) => do
      let parts ← items.mapM (faultOf n)
      pure (Fault.join (parts.filterMap id))
    | _, _, _, _, _ =>
      match j.get? "wrap" with
      | some (.str w) => do
        match ← causeOf (faultOf n) j with
        | some c => pure (some (.withPrefix w c))
        | none => pure (some (.plain (w ++ ": %!w(<nil>)")))
      | _ => .error "unknown error spec"
  | _ + 1, _ => .error "unknown error spec"

/-- Report on a described fault. -/
def errorAnswer (req : Json) : Except String Json := do
  let spec := (req.get? "err").getD .null
  let f ← faultOf (spec.render.length + 1) spec
  let has (p : Fault → Bool) : Bool := f.map p |>.getD false
  pure (.obj [("err", Answer.faultOrNull f), ("retryable", .bool (has Fault.retryable)),
              ("temporary", .bool (has Fault.temporary)),
              ("validation", .bool (has Fault.hasInvalid)), ("misuse", .bool (has Fault.misuse))])

/-- Run a setting check. -/
def validateAnswer (req : Json) : Except String Json := do
  let fn ← str req "fn"
  let module ← str req "module"
  let field ← str req "field"
  if fn = "positive" then
    return Answer.okOr (Validation.positive module field (← int req "value"))
  else if fn = "nonneg_duration" then
    return Answer.okOr (Validation.nonNegativeDuration module field (← int req "value"))
  else if fn = "not_nil" then
    let t ← str req "value_type"
    let t := if t = "" then "string" else t
    if t = "nil" then return Answer.fault (Validation.missing module field)
    else
      let _ ← shownValue req t
      return Answer.ok
  else if fn = "not_empty" then
    return Answer.okOr (Validation.notEmpty module field (← str req "value"))
  else if fn = "one_of" then
    let allowed ← (← list req "allowed").mapM fun
      | .str s => .ok s
      | _ => .error (fieldFault "allowed" "not a string")
    return Answer.okOr (Validation.oneOf module field (← str req "value") allowed)
  else throw ("unknown fn " ++ Text.quote fn)

end Request

end HostDispatch
