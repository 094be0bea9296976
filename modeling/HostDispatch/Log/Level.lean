import HostDispatch.Text.Space
import HostDispatch.Text.Case

/-!
# Log levels

Lines are written at one of five severities, from trace to error. A logger's threshold is a
numbered level held in a signed byte: trace is -1, then debug, info, warn, error, fatal and panic
from 0 to 5, 6 for "no level" and 7 for disabled. A line is written when the threshold is not
disabled and the line's severity is at least the threshold.

Level names are read trimmed and in any case: `trace`, `debug`, `info`, `warn` or `warning`,
`error`, and `off` or `disabled`; any other name gives the default.
-/

namespace HostDispatch

/-- The severity of a log line. -/
inductive Severity where
  | trace
  | debug
  | info
  | warn
  | error
deriving DecidableEq, Repr, Inhabited

namespace Severity

/-- The number of a severity on the scale of levels. -/
def rank : Severity → Int
  | .trace => -1
  | .debug => 0
  | .info => 1
  | .warn => 2
  | .error => 3

/-- The name of a severity. -/
def name : Severity → String
  | .trace => "trace"
  | .debug => "debug"
  | .info => "info"
  | .warn => "warn"
  | .error => "error"

/-- The three-letter tag of a severity in console lines. -/
def tag : Severity → String
  | .trace => "TRC"
  | .debug => "DBG"
  | .info => "INF"
  | .warn => "WRN"
  | .error => "ERR"

end Severity

namespace Level

/-- The level of disabled logging. -/
def disabled : Int := 7

/-- The level of info lines, the usual default. -/
def info : Int := 1

/-- A number as a signed byte holds it: wrapped into -128 to 127. -/
def ofInt (n : Int) : Int := (n + 128) % 256 - 128

/-- Read a level name, with a default for unknown names. -/
def parse (s : String) (default : Int) : Int :=
  let n := Text.lowerWord (Text.trim s)
  if n = "trace" then -1
  else if n = "debug" then 0
  else if n = "info" then 1
  else if n = "warn" || n = "warning" then 2
  else if n = "error" then 3
  else if n = "off" || n = "disabled" then disabled
  else default

/-- The name of a level; levels without a name are written as their number. -/
def name (n : Int) : String :=
  if n = -1 then "trace"
  else if n = 0 then "debug"
  else if n = 1 then "info"
  else if n = 2 then "warn"
  else if n = 3 then "error"
  else if n = 4 then "fatal"
  else if n = 5 then "panic"
  else if n = 6 then ""
  else if n = 7 then "disabled"
  else toString n

/-- Whether a threshold lets lines of a severity through. -/
def admits (threshold : Int) (s : Severity) : Bool :=
  threshold ≠ disabled && s.rank ≥ threshold

end Level

end HostDispatch
