/-!
# Faults

What goes wrong is a value of `Fault`. A fault is one of six named sentinels, a rejected setting
(module, field, the value as shown, the reason and an optional hint), a failed operation with its
cause and context, a fault wrapped in more words, several faults at once, or plain text (which
may or may not be a layer that can be unwrapped).

A fault *finds* a sentinel when unwrapping it reaches that sentinel: a rejected setting always
finds `invalidConfiguration`; an operation, a wrapping or a group finds what its causes find. The
`message` of each kind is fixed here, once.
-/

namespace HostDispatch

/-- The named faults that callers test for. -/
inductive Sentinel where
  | closed
  | timeout
  | capacityExceeded
  | invalidConfiguration
  | alreadyRunning
  | actionNotPending
deriving DecidableEq, Repr, Inhabited

namespace Sentinel

/-- Every sentinel, in the order in which they are listed. -/
def all : List Sentinel :=
  [.closed, .timeout, .capacityExceeded, .invalidConfiguration, .alreadyRunning, .actionNotPending]

/-- The text of a sentinel. -/
def message : Sentinel → String
  | .closed => "resource is closed"
  | .timeout => "operation timed out"
  | .capacityExceeded => "capacity exceeded"
  | .invalidConfiguration => "invalid configuration"
  | .alreadyRunning => "already running"
  | .actionNotPending => "action not pending"

/-- The name a sentinel is known by. -/
def name : Sentinel → String
  | .closed => "ErrClosed"
  | .timeout => "ErrTimeout"
  | .capacityExceeded => "ErrCapacityExceeded"
  | .invalidConfiguration => "ErrInvalidConfiguration"
  | .alreadyRunning => "ErrAlreadyRunning"
  | .actionNotPending => "ErrActionNotPending"

end Sentinel

/-- A fault. -/
inductive Fault where
  /-- A named sentinel. -/
  | sentinel (s : Sentinel)
  /-- A rejected setting: `module: invalid field=value (reason)`, then ` - hint` if any. -/
  | invalid (module field value reason hint : String)
  /-- A failed operation: `module.operation failed: cause`, then ` (context)` if any. -/
  | operation (module op : String) (cause : Option Fault) (context : String)
  /-- A fault with words before and after its own message. -/
  | wrapped (before after : String) (cause : Fault)
  /-- Several faults under one message. -/
  | group (message : String) (causes : List Fault)
  /-- Plain text that wraps nothing. -/
  | plain (message : String)
  /-- Text of its own that can be unwrapped, though to nothing: reported as a wrapping, and finds
  no sentinel. -/
  | layer (message : String)
deriving Repr, Inhabited

namespace Fault

/-- The message of a fault. -/
def message : Fault → String
  | .sentinel s => s.message
  | .invalid module field value reason hint =>
    module ++ ": invalid " ++ field ++ "=" ++ value ++ " (" ++ reason ++ ")" ++
      (if hint = "" then "" else " - " ++ hint)
  | .operation module op cause context =>
    module ++ "." ++ op ++ " failed: " ++
      (match cause with
        | some c => c.message
        | none => "<nil>") ++
      (if context = "" then "" else " (" ++ context ++ ")")
  | .wrapped before after cause => before ++ cause.message ++ after
  | .group message _ => message
  | .plain message => message
  | .layer message => message

/-- A fault prefixed with words and a colon. -/
def withPrefix (pre : String) (cause : Fault) : Fault := .wrapped (pre ++ ": ") "" cause

/-- Faults joined one per line; `none` when there are none. -/
def join (faults : List Fault) : Option Fault :=
  match faults with
  | [] => none
  | fs => some (.group ("\n".intercalate (fs.map message)) fs)

mutual
/-- Whether unwrapping a fault finds a sentinel. -/
def finds (f : Fault) (s : Sentinel) : Bool :=
  match f with
  | .sentinel t => t == s
  | .invalid .. => s == .invalidConfiguration
  | .operation _ _ (some c) _ => c.finds s
  | .operation _ _ none _ => false
  | .wrapped _ _ c => c.finds s
  | .group _ cs => anyFinds cs s
  | .plain _ => false
  | .layer _ => false

/-- Whether a fault of a list finds a sentinel. -/
def anyFinds (fs : List Fault) (s : Sentinel) : Bool :=
  match fs with
  | [] => false
  | f :: rest => f.finds s || anyFinds rest s
end

mutual
/-- Whether unwrapping a fault finds a rejected setting. -/
def hasInvalid (f : Fault) : Bool :=
  match f with
  | .invalid .. => true
  | .operation _ _ (some c) _ => c.hasInvalid
  | .wrapped _ _ c => c.hasInvalid
  | .group _ cs => anyInvalid cs
  | _ => false

/-- Whether a fault of a list holds a rejected setting. -/
def anyInvalid (fs : List Fault) : Bool :=
  match fs with
  | [] => false
  | f :: rest => f.hasInvalid || anyInvalid rest
end

/-- The sentinels a fault finds, in the fixed order of `Sentinel.all`. -/
def sentinels (f : Fault) : List Sentinel := Sentinel.all.filter f.finds

/-- The kind a fault is reported as, read off its outermost layer. -/
def kind : Fault → String
  | .sentinel s => s.name
  | .invalid .. => "ValidationError"
  | .operation .. => "OperationError"
  | .wrapped .. => "WrappedError"
  | .group .. => "MultiError"
  | .plain _ => "Error"
  | .layer _ => "WrappedError"

/-- Worth retrying: the fault is a timeout. -/
def retryable (f : Fault) : Bool := f.finds .timeout

/-- Temporary: a timeout or exceeded capacity. -/
def temporary (f : Fault) : Bool := f.finds .timeout || f.finds .capacityExceeded

/-- A misuse: running twice or canceling what is not pending. -/
def misuse (f : Fault) : Bool := f.finds .alreadyRunning || f.finds .actionNotPending

end Fault

end HostDispatch
