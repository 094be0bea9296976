import HostDispatch.Data.Json
import HostDispatch.Text.Integer
import HostDispatch.Time.Basic

/-!
# Request fields

Requests are JSON objects whose fields are read by name. A missing field (or a `null` one) takes
its default: zero, the empty text, false or the empty list. A field of the wrong kind makes the
request unreadable, and the message names the field: `field path: not a string`. An integer field
must hold a whole number within the signed 64-bit range.
-/

namespace HostDispatch

namespace Request

/-- The message of an unreadable field. -/
def fieldFault (key message : String) : String := "field " ++ key ++ ": " ++ message

/-- The text shown for a value that is not what a field needs. -/
def shown (j : Json) : String :=
  match j with
  | .str s => s
  | other => other.render

/-- An integer field, `none` when missing or null. -/
def int? (j : Json) (key : String) : Except String (Option Int) :=
  match j.get? key with
  | none | some .null => .ok none
  | some (.num t) =>
    match Integer.read t with
    | .ok n => .ok (some n)
    | .error _ => .error (fieldFault key ("not an int64: " ++ t))
  | some other => .error (fieldFault key ("not an int64: " ++ shown other))

/-- An integer field, zero when missing. -/
def int (j : Json) (key : String) : Except String Int := do
  pure ((← int? j key).getD 0)

/-- A text field, `none` when missing or null. -/
def str? (j : Json) (key : String) : Except String (Option String) :=
  match j.get? key with
  | none | some .null => .ok none
  | some (.str s) => .ok (some s)
  | some _ => .error (fieldFault key "not a string")

/-- A text field, empty when missing. -/
def str (j : Json) (key : String) : Except String String := do
  pure ((← str? j key).getD "")

/-- A truth-value field, false when missing. -/
def bool (j : Json) (key : String) : Except String Bool :=
  match j.get? key with
  | none | some .null => .ok false
  | some (.bool b) => .ok b
  | some _ => .error (fieldFault key "not a bool")

/-- A list field, empty when missing. -/
def list (j : Json) (key : String) : Except String (List Json) :=
  match j.get? key with
  | none | some .null => .ok []
  | some (.arr xs) => .ok xs
  | some _ => .error (fieldFault key "not a list")

/-- An object field, `none` when missing or null. -/
def obj? (j : Json) (key : String) : Except String (Option Json) :=
  match j.get? key with
  | none | some .null => .ok none
  | some (.obj fs) => .ok (some (.obj fs))
  | some _ => .error (fieldFault key "not an object")

/-- The members of an object field, empty when missing. -/
def members (j : Json) (key : String) : Except String (List (String × Json)) :=
  match j.get? key with
  | none | some .null => .ok []
  | some (.obj fs) => .ok fs
  | some _ => .error (fieldFault key "not an object")

/-- A time field in RFC 3339 form, `none` when missing. -/
def time? (j : Json) (key : String) : Except String (Option Time) := do
  match ← str? j key with
  | none => pure none
  | some s =>
    match Time.parse? s with
    | some t => pure (some t)
    | none => throw (fieldFault key ("not a time: " ++ s))

/-- Whether a field is present with the value null. -/
def isNull (j : Json) (key : String) : Bool :=
  match j.get? key with
  | some .null => true
  | _ => false

end Request

end HostDispatch
