import HostDispatch.Config.Basic

/-!
# Decoding configuration objects

A JSON value is decoded into a configuration by the rules of field-by-field decoding: object
members are matched to settings by name, exactly or else ignoring case; a member that matches no
setting is refused when decoding strictly and skipped otherwise; `null` leaves a setting as it was
(and empties a list or a label map); a member decoded twice is decoded again over its first value.
A value of the wrong kind is a fault naming the kind found, the path of the setting (with the
index of each list element on the way) and the type expected; decoding goes on after a fault, and
the first fault found is the one reported.
-/

namespace HostDispatch

namespace Config

/-- Decoding, remembering the first fault met. -/
abbrev Decode := StateM (Option String)

/-- Remember a fault unless one was met before. -/
def save (message : String) : Decode Unit := modify fun e => e <|> some message

/-- The word for the kind of a JSON value in a fault. -/
def kindWord : Json → String
  | .str _ => "string"
  | .num _ => "number"
  | .bool _ => "bool"
  | .arr _ => "array"
  | .obj _ => "object"
  | .null => "null"

/-- Whether a step of a path is a list index. -/
def isIndex (step : String) : Bool := !step.isEmpty && step.toList.all Char.isDigit

/-- The fault of a value of the wrong kind at a path, for a type. The path names settings, label
keys and list indices; a value that is a list element is named without calling it a field. -/
def typeFault (root : String) (path : List String) (found ty : String) : String :=
  let place := root ++ "." ++ ".".intercalate path
  match path.getLast? with
  | none => "json: cannot unmarshal " ++ found ++ " into Go value of type " ++ ty
  | some last =>
    if isIndex last then "json: cannot unmarshal " ++ found ++ " into " ++ place ++ " of type " ++ ty
    else "json: cannot unmarshal " ++ found ++ " into Go struct field " ++ place ++ " of type " ++ ty

/-- A key folded for matching setting names without regard to case. -/
def fold (s : String) : String :=
  String.ofList (s.toList.map fun c =>
    if c.toNat = 0x212A then 'k' else if c.toNat = 0x17F then 's' else c.toLower)

/-- How one value decodes over a current one, given the path to it. -/
abbrev Field (α : Type) := List String → Json → α → Decode α

/-- An integer setting. -/
def intValue (root : String) : Field Int := fun path j cur =>
  match j with
  | .null => pure cur
  | .num t =>
    match Integer.read t with
    | .ok n => pure n
    | .error _ => do save (typeFault root path ("number " ++ t) "int"); pure cur
  | other => do save (typeFault root path (kindWord other) "int"); pure cur

/-- A text setting. -/
def strValue (root : String) : Field String := fun path j cur =>
  match j with
  | .null => pure cur
  | .str s => pure s
  | other => do save (typeFault root path (kindWord other) "string"); pure cur

/-- A truth-value setting. -/
def boolValue (root : String) : Field Bool := fun path j cur =>
  match j with
  | .null => pure cur
  | .bool b => pure b
  | other => do save (typeFault root path (kindWord other) "bool"); pure cur

/-- A group of settings: each member is matched to a named setting. -/
def group {α : Type} (root ty : String) (strict : Bool) (fields : List (String × Field α)) :
    Field α := fun path j cur =>
  match j with
  | .null => pure cur
  | .obj ms =>
    let member (acc : α) (kv : String × Json) : Decode α :=
      let (k, v) := kv
      let found := (fields.find? (·.1 == k)).orElse fun _ =>
        fields.find? (fun f => fold f.1 == fold k)
      match found with
      | some (name, f) => f (path ++ [name]) v acc
      | none => do
        if strict then save ("json: unknown field " ++ Text.quote k)
        pure acc
    ms.foldlM member cur
  | other => do save (typeFault root path (kindWord other) ty); pure cur

/-- A list of settings; elements decode over the elements already there. -/
def listOf {α : Type} [Inhabited α] (root ty : String) (elem : Field α) (zero : α) :
    Field (List α) := fun path j cur =>
  match j with
  | .null => pure []
  | .arr xs =>
    xs.zipIdx.mapM fun (x, i) => elem (path ++ [toString i]) x (cur.getD i zero)
  | other => do save (typeFault root path (kindWord other) ty); pure cur

/-- Set a label, keeping its place when it is there already. -/
def setLabel (k v : String) (ls : List (String × String)) : List (String × String) :=
  if ls.any (·.1 == k) then ls.map fun (k', v') => if k' == k then (k', v) else (k', v')
  else ls ++ [(k, v)]

/-- A map of text labels; decoding adds to the labels already there. -/
def labelMap (root : String) : Field (List (String × String)) := fun path j cur =>
  match j with
  | .null => pure []
  | .obj ms =>
    let member (acc : List (String × String)) (kv : String × Json) :
        Decode (List (String × String)) := do
      let s ← strValue root (path ++ [kv.1]) kv.2 ""
      pure (setLabel kv.1 s acc)
    ms.foldlM member cur
  | other => do save (typeFault root path (kindWord other) "map[string]string"); pure cur

/-- The scheduler group. -/
def schedulerField (root : String) (strict : Bool) : Field Scheduler :=
  group root "config.SchedulerConfig" strict
    [("name", fun p j c => do pure { c with name := ← strValue root p j c.name }),
     ("workers", fun p j c => do pure { c with workers := ← intValue root p j c.workers }),
     ("queue_size", fun p j c => do pure { c with queueSize := ← intValue root p j c.queueSize }),
     ("min_period", fun p j c => do pure { c with minPeriod := ← strValue root p j c.minPeriod }),
     ("max_sleep", fun p j c => do pure { c with maxSleep := ← strValue root p j c.maxSleep })]

/-- The logging group. -/
def loggingField (root : String) (strict : Bool) : Field Logging :=
  group root "config.LoggingConfig" strict
    [("level", fun p j c => do pure { c with level := ← strValue root p j c.level }),
     ("format", fun p j c => do pure { c with format := ← strValue root p j c.format })]

/-- The metrics group. -/
def metricsField (root : String) (strict : Bool) : Field MetricsSettings :=
  group root "config.MetricsConfig" strict
    [("enabled", fun p j c => do pure { c with enabled := ← boolValue root p j c.enabled }),
     ("namespace", fun p j c => do pure { c with space := ← strValue root p j c.space }),
     ("listen", fun p j c => do pure { c with listen := ← strValue root p j c.listen }),
     ("labels", fun p j c => do pure { c with labels := ← labelMap root p j c.labels })]

/-- A timer group. -/
def timerField (root : String) (strict : Bool) : Field TimerSettings :=
  group root "config.TimerConfig" strict
    [("name", fun p j c => do pure { c with name := ← strValue root p j c.name }),
     ("kind", fun p j c => do pure { c with kind := ← strValue root p j c.kind }),
     ("period", fun p j c => do pure { c with period := ← strValue root p j c.period }),
     ("initial_period", fun p j c => do
        pure { c with initialPeriod := ← strValue root p j c.initialPeriod }),
     ("cron", fun p j c => do pure { c with cron := ← strValue root p j c.cron }),
     ("location", fun p j c => do pure { c with location := ← strValue root p j c.location })]

/-- A check group. -/
def checkField (root : String) (strict : Bool) : Field CheckSettings :=
  group root "config.CheckConfig" strict
    [("name", fun p j c => do pure { c with name := ← strValue root p j c.name }),
     ("url", fun p j c => do pure { c with url := ← strValue root p j c.url }),
     ("method", fun p j c => do pure { c with method := ← strValue root p j c.method }),
     ("interval", fun p j c => do pure { c with interval := ← strValue root p j c.interval }),
     ("timeout", fun p j c => do pure { c with timeout := ← strValue root p j c.timeout })]

/-- A whole configuration. -/
def settingsField (strict : Bool) : Field Settings :=
  let root := "Config"
  group root "config.Config" strict
    [("scheduler", fun p j c => do
        pure { c with scheduler := ← schedulerField root strict p j c.scheduler }),
     ("logging", fun p j c => do
        pure { c with logging := ← loggingField root strict p j c.logging }),
     ("metrics", fun p j c => do
        pure { c with metrics := ← metricsField root strict p j c.metrics }),
     ("timers", fun p j c => do
        let ts ← listOf root "[]config.TimerConfig" (timerField root strict) default p j c.timers
        pure { c with timers := ts }),
     ("checks", fun p j c => do
        let cs ← listOf root "[]config.CheckConfig" (checkField root strict) default p j c.checks
        pure { c with checks := cs })]

end Config

namespace Settings

/-- Decode a JSON value over a configuration; strict decoding refuses unknown members. -/
def decode (strict : Bool) (j : Json) (base : Settings) : Except String Settings :=
  match (Config.settingsField strict [] j base).run none with
  | (_, some e) => .error e
  | (c, none) => .ok c

end Settings

end HostDispatch
