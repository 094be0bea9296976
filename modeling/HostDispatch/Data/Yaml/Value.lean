import HostDispatch.Data.Yaml.Resolve
import HostDispatch.Data.Json
import HostDispatch.Text.Decimal
import HostDispatch.Text.Quoted

/-!
# YAML values

The third stage of reading YAML: the node tree becomes plain data. Scalars become what they
resolve to; sequences become lists; mappings become maps, with text keys when every key is text
and keys of any kind otherwise. A mapping may not repeat a key (every repetition is reported, with
its line), and a key may not be a collection. A merge key `<<` takes the pairs of a mapping, or of
each mapping of a sequence in turn, for the keys the mapping does not set itself.

Written as JSON, map keys become text (numbers in their shortest form, `null` as `<nil>`) and
members are sorted by key; floats follow the JSON number layout, and NaN and the infinities cannot
be written.
-/

namespace HostDispatch

namespace Yaml

/-- Plain data read from YAML. -/
inductive Value where
  | null
  | bool (b : Bool)
  | int (n : Int)
  | float (x : Float)
  | text (s : String)
  | time (t : Time)
  | seq (items : List Value)
  | map (pairs : List (Value × Value))
deriving Inhabited

/-- Whether two scalar values are the same key; collections are never keys. -/
def Value.same : Value → Value → Bool
  | .null, .null => true
  | .bool a, .bool b => a == b
  | .int a, .int b => a == b
  | .float a, .float b => a == b
  | .text a, .text b => a == b
  | .time a, .time b => a.ns == b.ns && a.zone.name == b.zone.name
  | _, _ => false

/-- Whether a value is a collection. -/
def Value.isCollection : Value → Bool
  | .seq _ | .map _ => true
  | _ => false

/-- A map being filled; text keys when `textKeys`. -/
structure MapAcc where
  textKeys : Bool
  pairs : List (Value × Value)

/-- Set a key, replacing its value when it is there. -/
def MapAcc.put (m : MapAcc) (k v : Value) : MapAcc :=
  if m.pairs.any (·.1.same k) then
    { m with pairs := m.pairs.map fun (k', v') => if k'.same k then (k', v) else (k', v') }
  else { m with pairs := m.pairs ++ [(k, v)] }

/-- Whether a scalar node reads as text whatever its text: its tag is `!!str`, given or implied by
quoting or a block scalar without a tag of its own. -/
def indicatedText (tag : String) : Bool := tag = strTag

/-- The short tag a node resolves to. -/
def Node.resolvedTag : Node → String
  | .scalar text tag _ _ =>
    if indicatedText tag then strTag
    else if tag = "" then (implicitScalar "" text).1
    else tag
  | .sequence .. => "!!seq"
  | .mapping .. => "!!map"
  | .aliasOf _ target _ =>
    match target with
    | .scalar text tag _ _ =>
      if indicatedText tag then strTag
      else if tag = "" then (implicitScalar "" text).1
      else tag
    | .sequence .. => "!!seq"
    | _ => "!!map"
  | .loop .. => ""

/-- Whether a node is a merge key. -/
def Node.isMerge : Node → Bool
  | .scalar text tag _ _ => text = "<<" && (tag = "" || tag = "!" || tag = mergeTag)
  | _ => false

/-- The kind and value that two keys of a mapping are compared by. -/
def Node.keyShape : Node → Nat × String
  | .scalar text .. => (0, text)
  | .sequence .. => (1, "")
  | .mapping .. => (2, "")
  | .aliasOf name .. => (3, name)
  | .loop name _ => (3, name)

/-- The repeated keys of a mapping, each against an earlier one, as messages. -/
def repeatedKeys (pairs : List (Node × Node)) : List String :=
  let keys := pairs.map (·.1)
  (keys.zipIdx.map fun (ki, i) =>
    (keys.drop (i + 1)).filterMap fun kj =>
      if ki.keyShape == kj.keyShape then
        some ("line " ++ toString kj.line ++ ": mapping key " ++ Text.quote kj.keyShape.2 ++
          " already defined at line " ++ toString ki.line)
      else none).flatten

/-- The decoder's state: the repeated-key reports, and counts of nodes and of nodes reached
through aliases, which bound how far aliases may multiply a document. -/
structure Decoder where
  reports : Array String
  nodes : Nat
  aliased : Nat
  aliasDepth : Nat

/-- Decoding: a state change that may stop with a message. -/
abbrev DecodeM := EStateM String Decoder

/-- The share of nodes that may be reached through aliases, for a count of nodes. -/
def allowedAliasShare (nodes : Nat) : Float :=
  if nodes ≤ 400000 then 0.99
  else if nodes ≥ 4000000 then 0.10
  else 0.99 - 0.89 * (Float.ofNat (nodes - 400000) / 3600000.0)

/-- Count one node, and stop when aliases multiply the document too much. -/
def countNode : DecodeM Unit := do
  let d ← get
  let d := { d with nodes := d.nodes + 1,
                    aliased := if d.aliasDepth > 0 then d.aliased + 1 else d.aliased }
  set d
  if d.aliased > 100 && d.nodes > 1000 &&
      Float.ofNat d.aliased / Float.ofNat d.nodes > allowedAliasShare d.nodes then
    throw "yaml: document contains excessive aliasing"

/-- The value of a scalar node. -/
def scalarValue (text tag : String) : DecodeM Value := do
  if indicatedText tag then return .text text
  match resolve tag text with
  | .error e => throw e
  | .ok (rtag, v) =>
    if rtag = binaryTag then
      match base64Bytes? text with
      | some bytes => return .text (Text.lossy bytes)
      | none => throw "yaml: !!binary value contains invalid base64 data"
    match v with
    | .null => return .null
    | .bool b => return .bool b
    | .int n => return .int n
    | .float x => return .float x
    | .text s => return .text s
    | .time t => return .time t

/-- The text a key of a text-keyed map is read as; none for a null key, which is skipped. -/
def textKey (text tag : String) : DecodeM (Option Value) := do
  if indicatedText tag then return some (.text text)
  match resolve tag text with
  | .error e => throw e
  | .ok (rtag, v) =>
    if rtag = binaryTag then
      match base64Bytes? text with
      | some bytes => return some (.text (Text.lossy bytes))
      | none => throw "yaml: !!binary value contains invalid base64 data"
    match v with
    | .null => return none
    | _ => return some (.text text)

/-- The names of the months, from January. -/
def monthNames : List String :=
  ["January", "February", "March", "April", "May", "June", "July", "August", "September",
   "October", "November", "December"]

/-- A time as the expression that builds it: its date, clock and nanoseconds in its own zone, then
the zone (`time.UTC`, `time.Local`, or the location of its name). -/
def timeSyntax (t : Time) : String :=
  let f := t.fields
  let place :=
    if t.zone.name = "UTC" then "time.UTC"
    else if t.zone.name = "Local" then "time.Local"
    else "time.Location(" ++ Text.quoteBytes t.zone.name ++ ")"
  "time.Date(" ++ toString f.year ++ ", time." ++ monthNames.getD (f.month - 1) "" ++ ", " ++
    ", ".intercalate ([f.day, f.hour, f.minute, f.second, f.nanos].map toString) ++ ", " ++
    place ++ ")"

/-- The largest signed 64-bit number: larger integers are held unsigned. -/
def maxSigned : Int := 9223372036854775807

/-- The text of a value held in a collection of any values, as a key fault shows it; an unsigned
integer is written in hexadecimal. -/
def heldText : Nat → Value → String
  | 0, _ => "..."
  | fuel + 1, v =>
    match v with
    | .null => "interface \x7b\x7d(nil)"
    | .bool b => if b then "true" else "false"
    | .int n =>
      if n > maxSigned then "0x" ++ String.ofList (Nat.toDigits 16 n.toNat) else toString n
    | .float x => Decimal.compact x
    | .text s => Text.quote s
    | .time t => timeSyntax t
    | .seq items => "[]interface \x7b\x7d\x7b" ++ ", ".intercalate (items.map (heldText fuel)) ++ "\x7d"
    | .map pairs =>
      let textKeys := pairs.all fun (k, _) => match k with
        | .text _ => true
        | _ => false
      let shown := pairs.map fun (k, v) => (heldText fuel k, heldText fuel v)
      let sorted := shown.mergeSort fun a b => decide (a.1 ≤ b.1)
      (if textKeys then "map[string]interface \x7b\x7d\x7b" else "map[interface \x7b\x7d]interface \x7b\x7d\x7b") ++
        ", ".intercalate (sorted.map fun (k, v) => k ++ ":" ++ v) ++ "\x7d"

/-- The message of a merge value that is not a mapping. -/
def mergeRefused : String := "yaml: map merge requires map or sequence of maps as the value"

mutual
/-- The value of a node. -/
def decode : Nat → Node → DecodeM Value
  | 0, _ => throw "yaml: exceeded max depth"
  | fuel + 1, n => do
    countNode
    match n with
    | .scalar text tag _ _ => scalarValue text tag
    | .sequence items _ => return .seq (← items.mapM (decode fuel))
    | .mapping pairs _ =>
      let textKeys := pairs.all fun (k, _) =>
        let t := k.resolvedTag
        t = strTag || t = mergeTag
      match ← fill fuel pairs ⟨textKeys, []⟩ none with
      | (some m, _) => return .map m.pairs
      | (none, _) => return .null
    | .aliasOf _ target _ =>
      modify fun d => { d with aliasDepth := d.aliasDepth + 1 }
      let v ← decode fuel target
      modify fun d => { d with aliasDepth := d.aliasDepth - 1 }
      return v
    | .loop name _ => throw ("yaml: anchor '" ++ name ++ "' value contains itself")

/-- The key of a pair: text for a text-keyed map (none to skip the pair), else any value. -/
def decodeKey : Nat → Bool → Node → DecodeM (Option Value)
  | 0, _, _ => throw "yaml: exceeded max depth"
  | fuel + 1, textKeys, k => do
    if !textKeys then return some (← decode fuel k)
    countNode
    match k with
    | .scalar text tag _ _ => textKey text tag
    | .aliasOf _ target _ => decodeKey fuel textKeys target
    | other => return some (← decode fuel other)

/-- Fill a map with the pairs of a mapping. While merging, `merged` holds the keys already set,
which are skipped, and grows with the keys set here. None when the mapping repeats a key. -/
def fill : Nat → List (Node × Node) → MapAcc → Option (List Value) →
    DecodeM (Option MapAcc × Option (List Value))
  | 0, _, _, _ => throw "yaml: exceeded max depth"
  | fuel + 1, pairs, acc, merged => do
    let reports := repeatedKeys pairs
    if !reports.isEmpty then
      modify fun d => { d with reports := d.reports ++ reports.toArray }
      return (none, merged)
    let mut acc := acc
    let mut merged := merged
    let mut mergeNode : Option Node := none
    for (k, v) in pairs do
      if k.isMerge then
        mergeNode := some v
        continue
      match ← decodeKey fuel acc.textKeys k with
      | none => pure ()
      | some kv =>
        let skip := match merged with
          | some set => set.any (·.same kv)
          | none => false
        if !skip then
          merged := merged.map (· ++ [kv])
          if kv.isCollection then throw ("yaml: invalid map key: " ++ heldText (fuel + 1) kv)
          let vv ← decode fuel v
          acc := acc.put kv vv
    match mergeNode with
    | none => return (some acc, merged)
    | some m =>
      let set ← match merged with
        | some s => pure s
        | none => pairs.mapM fun (k, _) => decode fuel k
      let (acc', set') ← mergeInto fuel m acc set
      return (some acc', if merged.isSome then some set' else none)

/-- Merge the pairs of a merge value into a map, skipping keys already set. -/
def mergeInto : Nat → Node → MapAcc → List Value → DecodeM (MapAcc × List Value)
  | 0, _, _, _ => throw "yaml: exceeded max depth"
  | fuel + 1, m, acc, set => do
    countNode
    match m with
    | .mapping pairs _ => mergeMapping fuel pairs acc set
    | .aliasOf _ (.mapping pairs _) _ => mergeMapping fuel pairs acc set
    | .loop name _ => throw ("yaml: anchor '" ++ name ++ "' value contains itself")
    | .sequence items _ =>
      let mut acc := acc
      let mut set := set
      for item in items do
        match item with
        | .mapping pairs _ =>
          let (a, s) ← mergeMapping fuel pairs acc set
          acc := a
          set := s
        | .aliasOf _ (.mapping pairs _) _ =>
          let (a, s) ← mergeMapping fuel pairs acc set
          acc := a
          set := s
        | .loop name _ => throw ("yaml: anchor '" ++ name ++ "' value contains itself")
        | _ => throw mergeRefused
      return (acc, set)
    | _ => throw mergeRefused

/-- Merge the pairs of one mapping. -/
def mergeMapping : Nat → List (Node × Node) → MapAcc → List Value →
    DecodeM (MapAcc × List Value)
  | 0, _, _, _ => throw "yaml: exceeded max depth"
  | fuel + 1, pairs, acc, set => do
    match ← fill fuel pairs acc (some set) with
    | (some acc', some set') => return (acc', set')
    | (_, _) => return (acc, set)
end

/-- The text of a time as a map key: date, clock, fraction, numeric offset and zone abbreviation
(the numeric offset again for a zone without one). -/
def timeKey (t : Time) : String :=
  let f := t.fields
  let off := t.offset
  let minutes := off.natAbs / 60
  let numeric := (if off < 0 then "-" else "+") ++ Time.pad 2 (minutes / 60) ++
    Time.pad 2 (minutes % 60)
  Time.yearText f.year ++ "-" ++ Time.pad 2 f.month ++ "-" ++ Time.pad 2 f.day ++ " " ++
    Time.pad 2 f.hour ++ ":" ++ Time.pad 2 f.minute ++ ":" ++ Time.pad 2 f.second ++
    Time.fractionText f.nanos ++ " " ++ numeric ++ " " ++
    (if t.zone.abbreviation = "" then numeric else t.zone.abbreviation)

/-- A map key as text. -/
def Value.keyText : Value → String
  | .null => "<nil>"
  | .bool b => if b then "true" else "false"
  | .int n => toString n
  | .float x => Decimal.compact x
  | .text s => s
  | .time t => timeKey t
  | .seq _ | .map _ => ""

/-- Put a member in key order, replacing one with the same key. -/
def insertMember (kv : String × Value) : List (String × Value) → List (String × Value)
  | [] => [kv]
  | (k, v) :: rest =>
    if kv.1 = k then kv :: rest
    else if kv.1 < k then kv :: (k, v) :: rest
    else (k, v) :: insertMember kv rest

/-- The JSON text of a float, or the fault of NaN and the infinities. -/
def floatJson (x : Float) : Except String Json :=
  if x.isNaN then .error "json: unsupported value: NaN"
  else if x.isInf then .error (if x > 0 then "json: unsupported value: +Inf"
    else "json: unsupported value: -Inf")
  else .ok (.num (Decimal.script x))

/-- The JSON text of a time, or the fault of a year outside 0 to 9999 or an offset of a day or
more, which RFC 3339 cannot write. -/
def timeJson (t : Time) : Except String Json :=
  let pre := "json: error calling MarshalJSON for type *time.Time: "
  let year := t.fields.year
  if year < 0 || year > 9999 then .error (pre ++ "year outside of range [0,9999]")
  else if t.offset.natAbs / 3600 ≥ 24 then .error (pre ++ "timezone hour outside of range [0,23]")
  else .ok (.str t.render)

/-- A value written as JSON, members in key order; the first float or time that cannot be
written, in that order, is a fault. -/
def Value.toJson : Nat → Value → Except String Json
  | 0, _ => .error "json: exceeded max depth"
  | fuel + 1, v =>
    match v with
    | .null => .ok .null
    | .bool b => .ok (.bool b)
    | .int n => .ok (.int n)
    | .float x => floatJson x
    | .text s => .ok (.str s)
    | .time t => timeJson t
    | .seq items => return .arr (← items.mapM (Value.toJson fuel))
    | .map pairs =>
      let members := pairs.foldl (fun acc (k, v) => insertMember (k.keyText, v) acc) []
      return .obj (← members.mapM fun (k, v) => return (k, ← Value.toJson fuel v))

end Yaml

end HostDispatch
