import HostDispatch.Time.Zone.Rule

/-!
# Time zones

A zone maps each instant to an offset from UTC. It is a list of changes, each the instant from
which a new offset holds, with the offset in force before the first change and a rule for every
instant from the last change on. With no change at all, the rule (or else the first offset)
holds at every instant.

`Zone.instantOfLocal` reads a wall-clock time in a zone: a reading that the clock skips or shows
twice is resolved by one lookup and one correction.
-/

namespace HostDispatch

/-- A named zone: the offset before the first change, the changes as (Unix seconds, offset in
seconds east of UTC) in ascending order, and the rule from the last change on. -/
structure Zone where
  name : String
  initial : Int
  changes : List (Int × Int) := []
  rule : Option ZoneRule := none
deriving Repr, Inhabited

namespace Zone

/-- Coordinated Universal Time. -/
def utc : Zone := { name := "UTC", initial := 0 }

/-- The host's own zone, which is UTC here. -/
def host : Zone := { name := "Local", initial := 0 }

/-- A zone that keeps one offset forever, as a parsed timestamp carries. -/
def fixed (offset : Int) : Zone := { name := "", initial := offset }

/-- The abbreviation a time in the zone is shown with, for the zones of read timestamps: the name,
`UTC` for the host's zone, and none for a fixed zone. -/
def abbreviation (z : Zone) : String := if z.name = "Local" then "UTC" else z.name

/-- The offset at an instant, given the offset in force so far and the changes still ahead: the
last change at or before the instant decides, and past the last change the rule does. -/
def offsetFrom (rule : Option ZoneRule) (unix : Int) : Int → List (Int × Int) → Int
  | current, [] =>
    match rule with
    | some r => r.offsetAt unix
    | none => current
  | current, (t, o) :: rest => if unix < t then current else offsetFrom rule unix o rest

/-- The offset in force at an instant (Unix seconds). -/
def offsetAt (z : Zone) (unix : Int) : Int := offsetFrom z.rule unix z.initial z.changes

/-- The instant (Unix seconds) of a local wall-clock reading. A reading that the clock skips or
shows twice is resolved the way one lookup and one correction do: take the offset at the reading
as if it were UTC, then the offset at the instant that this offset gives. -/
def instantOfLocal (z : Zone) (localSecs : Int) : Int :=
  localSecs - z.offsetAt (localSecs - z.offsetAt localSecs)

end Zone

end HostDispatch
