import HostDispatch.Fault
import HostDispatch.Data.Json

/-!
# Answers

How outcomes are written in answers: a fault as its kind, message and the sentinels it finds; a
panic as its message; an unreadable request as its reason.
-/

namespace HostDispatch

namespace Answer

/-- A fault: `error` is the kind of its outermost layer, `is` the sentinels it finds in fixed order. -/
def fault (f : Fault) : Json :=
  .obj [("error", .str f.kind), ("message", .str f.message),
        ("is", .arr (f.sentinels.map fun s => .str s.name))]

/-- A fault, or null for none. -/
def faultOrNull : Option Fault → Json
  | some f => fault f
  | none => .null

/-- A panic with its message. -/
def panic (message : String) : Json := .obj [("error", .str "panic"), ("message", .str message)]

/-- A request that cannot be read. -/
def badInput (message : String) : Json :=
  .obj [("error", .str "bad_input"), ("message", .str message)]

/-- Lines as a list, or null when there are none. -/
def lines (ls : List String) : Json := if ls.isEmpty then .null else .arr (ls.map .str)

/-- Success without a value. -/
def ok : Json := .obj [("ok", .bool true)]

/-- Success, or the fault. -/
def okOr : Except Fault Unit → Json
  | .ok () => ok
  | .error f => fault f

end Answer

end HostDispatch
