import HostDispatch.Time.Zone
import HostDispatch.Time.Zone.Records

/-!
# Named zones

Zones are loaded by name from the records of the tz database, as files of a zone directory: a
name is a path of that directory, whose components are zone files, the directories that group
them, or a few files that hold no zone (the tables of countries, zones and leap seconds). Empty
and `.` components stay where they are.

`""` and `UTC` are UTC, and `Local` is the host zone, which is UTC here. A name with two dots in a
row or a leading slash or backslash is refused before any lookup. Otherwise the path decides: a
zone loads under the name given, a file without a zone is malformed, a directory or a file used as
a directory is refused with the fault of reading it, and a name that reaches nothing is unknown.
-/

namespace HostDispatch

namespace ZoneTable

/-- The names a record holds: the zone's, then those of its links. -/
def namesOf (r : String) : List String := ((r.splitOn "|").headD "").splitOn " "

/-- The words of a field. -/
def words (s : String) : List String := (s.splitOn " ").filter (· ≠ "")

/-- The zone a record describes, under a name. -/
def decode (name : String) (r : String) : Option Zone :=
  match r.splitOn "|" with
  | [_, first, offsets, changes, rule] => do
    let kinds ← (words offsets).mapM String.toInt?
    let initial ← kinds[← first.toNat?]?
    let cs ← (words changes).mapM fun c =>
      match c.splitOn ":" with
      | [t, k] => do pure ((← t.toInt?), (← kinds[← k.toNat?]?))
      | _ => none
    pure { name := name, initial := initial, changes := cs,
           rule := if rule = "" then none else ZoneRule.parse rule }
  | _ => none

/-- The files of the zone directory that hold no zone. -/
def dataFiles : List String :=
  ["iso3166.tab", "leap-seconds.list", "leapseconds", "tzdata.zi", "zone.tab", "zone1970.tab",
   "zonenow.tab"]

/-- The record of a zone file. -/
def findRecord (path : String) : Option String :=
  records.find? fun r => (namesOf r).contains path

/-- Whether a path is a directory: some zone file lies below it. -/
def isDirectory (path : String) : Bool :=
  records.any fun r => (namesOf r).any (·.startsWith (path ++ "/"))

/-- What a path of the zone directory reaches. -/
inductive Entry where
  | zone (record : String)
  | dataFile
  | directory
  /-- A file with more components after it. -/
  | notDirectory
  | missing
deriving Inhabited

/-- Follow the components of a path from a directory. -/
def walk (dir : String) : List String → Entry
  | [] => .directory
  | c :: rest =>
    if c = "" || c = "." then walk dir rest
    else
      let p := if dir = "" then c else dir ++ "/" ++ c
      match findRecord p with
      | some r => if rest.isEmpty then .zone r else .notDirectory
      | none =>
        if dataFiles.contains p then (if rest.isEmpty then .dataFile else .notDirectory)
        else if isDirectory p then walk p rest
        else .missing

/-- Whether a name holds two dots in a row. -/
def hasDotDot (name : String) : Bool := (name.splitOn "..").length > 1

end ZoneTable

/-- Load a zone by name: the message of a failed load is the one the caller reports. -/
def Zone.load (name : String) : Except String Zone :=
  if name = "" || name = "UTC" then .ok Zone.utc
  else if name = "Local" then .ok Zone.host
  else if ZoneTable.hasDotDot name || name.startsWith "/" || name.startsWith "\\" then
    .error "time: invalid location name"
  else if name.any (· = Char.ofNat 0) then .error "invalid argument"
  else
    match ZoneTable.walk "" (name.splitOn "/") with
    | .zone r =>
      match ZoneTable.decode name r with
      | some z => .ok z
      | none => .error "malformed time zone information"
    | .dataFile => .error "malformed time zone information"
    | .directory => .error "is a directory"
    | .notDirectory => .error "not a directory"
    | .missing => .error ("unknown time zone " ++ name)

end HostDispatch
