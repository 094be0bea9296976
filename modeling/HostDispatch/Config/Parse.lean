import HostDispatch.Config.Decode
import HostDispatch.Data.Json.Stream
import HostDispatch.Data.Yaml

/-!
# Reading configuration files

A configuration file is YAML when its name ends in `.yaml` or `.yml` (in any case), and JSON
otherwise. A YAML file is first turned into the JSON value of its first document (an empty document
is an empty object). The JSON text must hold exactly one value, decoded strictly over the defaults,
and the configuration must then be valid.
-/

namespace HostDispatch

namespace Settings

/-- The extension of a path: from the last dot of its last part, or empty. -/
def extension (path : String) : String :=
  -- the last part read backwards, up to the last separator
  let back := path.toList.reverse.takeWhile (· ≠ '/')
  match back.dropWhile (· ≠ '.') with
  | [] => ""
  | _ => String.ofList ('.' :: (back.takeWhile (· ≠ '.')).reverse)

/-- Whether a path names a YAML file. -/
def isYaml (path : String) : Bool :=
  let e := (extension path).toLower
  e == ".yaml" || e == ".yml"

/-- What is left after the first value of a file: nothing, or the fault of what follows. -/
def trailing (rest : List Char) (format path : String) : Option Fault :=
  match Json.next rest with
  | .finished => none
  | .fault m => some (.plain m)
  | .value j _ =>
    match j with
    | .obj ((k, _) :: _) => some (.plain ("json: unknown field " ++ Text.quote k))
    | .obj [] | .null => some (.plain (format ++ " config " ++ path ++ ": trailing data"))
    | other => some (.layer ("json: cannot unmarshal " ++ Config.kindWord other ++
        " into Go value of type struct " ++ "\x7b\x7d"))

/-- Read a configuration from JSON text, strictly, over the defaults. -/
def ofJsonText (format path : String) (cs : List Char) : Except Fault Settings := do
  let pre := format ++ " config " ++ path ++ ": "
  match Json.next cs with
  | .finished => throw (.wrapped pre "" (.plain "EOF"))
  | .fault m => throw (.wrapped pre "" (.plain m))
  | .value j rest =>
    let c ← (Settings.decode true j Settings.defaults).mapError fun e => .wrapped pre "" (.plain e)
    match trailing rest format path with
    | some f => throw f
    | none => pure c

/-- What reading a configuration file gives: a valid configuration, a fault, or the message of a
crash while checking it. -/
inductive Outcome where
  | ok (c : Settings)
  | fault (f : Fault)
  | crash (message : String)

/-- Read a configuration file's text over the defaults, before it is checked. -/
def read (path text : String) : Except Fault Settings :=
  if isYaml path then
    match Yaml.toJson text with
    | .error (.unreadable m) => .error (.wrapped "yaml unmarshal: " "" (.plain m))
    | .error (.unwritable m) => .error (.wrapped "yaml->json marshal: " "" (.plain m))
    | .ok j => ofJsonText "yaml" path ((j.getD (.obj [])).render.toList)
  else ofJsonText "json" path text.toList

/-- The outcome of checking a configuration that was read. -/
def settle (c : Settings) : Outcome :=
  match c.validate with
  | .error m => .crash m
  | .ok (some f) => .fault f
  | .ok none => .ok c

/-- Read and check a configuration file's text. -/
def parse (path text : String) : Outcome :=
  match read path text with
  | .error f => .fault f
  | .ok c => settle c

end Settings

end HostDispatch
