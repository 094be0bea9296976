import HostDispatch.Fault
import HostDispatch.Time.Duration

/-!
# Validation of settings

The checks that settings pass before use. Each failure is a rejected setting (`Fault.invalid`)
that names the module and field, shows the value, gives the reason and a hint.
-/

namespace HostDispatch

namespace Validation

/-- A count must be above zero. -/
def positive (module field : String) (value : Int) : Except Fault Unit :=
  if value ≤ 0 then
    .error (.invalid module field (toString value) "must be positive" "value must be greater than 0")
  else .ok ()

/-- A duration must not be negative. -/
def nonNegativeDuration (module field : String) (value : Int) : Except Fault Unit :=
  if value < 0 then
    .error (.invalid module field (Duration.text value) "cannot be negative"
      "use 0 or a positive duration")
  else .ok ()

/-- The fault of a missing value. -/
def missing (module field : String) : Fault :=
  .invalid module field "<nil>" "cannot be nil" ("provide a valid " ++ field)

/-- A text must not be empty. -/
def notEmpty (module field value : String) : Except Fault Unit :=
  if value = "" then
    .error (.invalid module field value "cannot be empty" ("provide a non-empty " ++ field))
  else .ok ()

/-- A text must be one of the allowed ones. -/
def oneOf (module field value : String) (allowed : List String) : Except Fault Unit :=
  if allowed.contains value then .ok ()
  else .error (.invalid module field value "unsupported value"
    ("use one of [" ++ " ".intercalate allowed ++ "]"))

end Validation

end HostDispatch
