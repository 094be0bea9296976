import HostDispatch.Data.Yaml.Compose
import HostDispatch.Time.Basic
import HostDispatch.Text.Utf8

/-!
# Resolving YAML scalars

A plain scalar means what its text reads as. A fixed set of words is `null`, a truth value, NaN or
an infinity; other texts are tried by their first character: a text starting with a digit or a
sign may be a timestamp (`2001-12-14`, `2001-12-14T21:59:43.10-05:00`), an integer (with `_`
separators ignored and an optional `0b`, `0o`, `0x` or `0` base prefix, within 64 bits, signed or
not) or a decimal float; a text starting with `.` may be a float. Anything else is text.

A scalar with a standard tag must read as that tag (an integer may stand for a float); `!!binary`
is base64 text; other tags leave the text as it is.
-/

namespace HostDispatch

namespace Yaml

/-- What a scalar stands for. -/
inductive Scalar where
  | null
  | bool (b : Bool)
  | int (n : Int)
  | float (x : Float)
  | text (s : String)
  | time (t : Time)
deriving Inhabited

/-- The tag of `null`. -/
def nullTag : String := "!!null"

/-- The tag of truth values. -/
def boolTag : String := "!!bool"

/-- The tag of integers. -/
def intTag : String := "!!int"

/-- The tag of floats. -/
def floatTag : String := "!!float"

/-- The tag of timestamps. -/
def timestampTag : String := "!!timestamp"

/-- The tag of base64 data. -/
def binaryTag : String := "!!binary"

/-- Not a number. -/
def nan : Float := 0.0 / 0.0

/-- Positive infinity. -/
def infinity : Float := 1.0 / 0.0

/-- The words with a fixed meaning. -/
def fixedScalar? (s : String) : Option (String × Scalar) :=
  if s = "true" || s = "True" || s = "TRUE" then some (boolTag, .bool true)
  else if s = "false" || s = "False" || s = "FALSE" then some (boolTag, .bool false)
  else if s = "" || s = "~" || s = "null" || s = "Null" || s = "NULL" then some (nullTag, .null)
  else if s = ".nan" || s = ".NaN" || s = ".NAN" then some (floatTag, .float nan)
  else if s = ".inf" || s = ".Inf" || s = ".INF" || s = "+.inf" || s = "+.Inf" || s = "+.INF" then
    some (floatTag, .float infinity)
  else if s = "-.inf" || s = "-.Inf" || s = "-.INF" then some (floatTag, .float (-infinity))
  else if s = "<<" then some (mergeTag, .text s)
  else none

/-- The class of a text by its first character: `N` empty, `S` sign, `D` digit, `M` a letter
that starts a fixed word, `.` a point, and a space for anything else. -/
def hint (s : String) : Char :=
  match s.toList with
  | [] => 'N'
  | c :: _ =>
    if c = '+' || c = '-' then 'S' else if c.isDigit then 'D'
    else if "yYnNtTfFoO~".toList.contains c then 'M' else if c = '.' then '.' else ' '

/-- The value of a digit in bases up to 36; 99 for other characters. -/
def digitValue (c : Char) : Nat :=
  if c.isDigit then c.toNat - 48
  else if 'a' ≤ c && c ≤ 'z' then c.toNat - 87
  else if 'A' ≤ c && c ≤ 'Z' then c.toNat - 55
  else 99

/-- The number written by digits in a base, when each is a digit of the base. -/
def digitsIn (base : Nat) (cs : List Char) : Option Nat :=
  cs.foldlM (fun acc c => let d := digitValue c; if d < base then some (acc * base + d) else none) 0

/-- An unsigned number with an optional base prefix (`0b`, `0o`, `0x`, or a leading `0` for
octal) that fits in 64 bits. -/
def unsignedPrefixed? (cs : List Char) : Option Nat :=
  let (base, ds) : Nat × List Char := match cs with
    | '0' :: c :: rest =>
      if rest ≠ [] && (c = 'b' || c = 'B') then (2, rest)
      else if rest ≠ [] && (c = 'o' || c = 'O') then (8, rest)
      else if rest ≠ [] && (c = 'x' || c = 'X') then (16, rest)
      else (8, c :: rest)
    | ['0'] => (8, [])
    | _ => (10, cs)
  if cs = [] then none
  else match digitsIn base ds with
    | some v => if v < Nat.pow 2 64 then some v else none
    | none => none

/-- A signed number with an optional base prefix that fits in 64 bits. -/
def signedPrefixed? (cs : List Char) : Option Int :=
  let (neg, rest) : Bool × List Char := match cs with
    | '+' :: r => (false, r)
    | '-' :: r => (true, r)
    | _ => (false, cs)
  match unsignedPrefixed? rest with
  | none => none
  | some v =>
    if !neg && v ≥ Nat.pow 2 63 then none else if neg && v > Nat.pow 2 63 then none
    else some (if neg then -(v : Int) else (v : Int))

/-- Split off digits. -/
def spanDigits (cs : List Char) : List Char × List Char := (cs.takeWhile Char.isDigit, cs.dropWhile Char.isDigit)

/-- The parts of a decimal float `[±](digits[.digits]|.digits)[(e|E)[±]digits]`: sign, integer
digits, fraction digits and exponent. -/
def floatParts? (cs : List Char) : Option (Bool × List Char × List Char × Int) := do
  let (neg, cs) : Bool × List Char := match cs with
    | '+' :: r => (false, r)
    | '-' :: r => (true, r)
    | _ => (false, cs)
  let (whole, cs) := spanDigits cs
  let (frac, cs) : List Char × List Char := match cs with
    | '.' :: r => spanDigits r
    | _ => ([], cs)
  if whole = [] && frac = [] then none
  let e : Int ← match cs with
    | [] => some 0
    | c :: r =>
      if c ≠ 'e' && c ≠ 'E' then none
      else
        let (eneg, ds) : Bool × List Char := match r with
          | '+' :: x => (false, x)
          | '-' :: x => (true, x)
          | _ => (false, r)
        if ds = [] || !ds.all Char.isDigit then none
        else
          let v : Int := (ds.foldl (fun n c => n * 10 + (c.toNat - 48)) 0 : Nat)
          some (if eneg then -v else v)
  return (neg, whole, frac, e)

/-- Whether a text has the shape of a YAML float: `[±](.digits|digits[.digits*])[e[±]digits]`. -/
def floatShape (cs : List Char) : Bool :=
  let cs := match cs with
    | '+' :: r => r
    | '-' :: r => r
    | _ => cs
  let rest? : Option (List Char) := match cs with
    | '.' :: r =>
      let (ds, tail) := spanDigits r
      if ds = [] then none else some tail
    | _ =>
      let (ds, tail) := spanDigits cs
      if ds = [] then none
      else match tail with
        | '.' :: r => some (spanDigits r).2
        | _ => some tail
  match rest? with
  | none => false
  | some [] => true
  | some (e :: r) =>
    let r := match r with
      | '+' :: x => x
      | '-' :: x => x
      | _ => r
    (e = 'e' || e = 'E') && r ≠ [] && r.all Char.isDigit

/-- The double nearest a decimal float text, or none when the text is not one or the value is
beyond the largest double. -/
def decimalFloat? (cs : List Char) : Option Float := do
  let (neg, whole, frac, e) ← floatParts? cs
  let digits := (whole ++ frac).dropWhile (· = '0')
  let m : Nat := digits.foldl (fun n c => n * 10 + (c.toNat - 48)) 0
  let e10 : Int := e - frac.length
  let mag : Float :=
    if m = 0 then 0.0
    else if e10 + digits.length > 310 then infinity
    else if e10 + digits.length < -330 then 0.0
    else if e10 < 0 then OfScientific.ofScientific m true e10.natAbs
    else OfScientific.ofScientific m false e10.toNat
  if mag.isInf then none
  return (if neg then -mag else mag)

/-- One or two digits. -/
def shortNumber? (cs : List Char) : Option (Nat × List Char) :=
  match cs with
  | a :: b :: rest =>
    if !a.isDigit then none
    else if b.isDigit then some ((a.toNat - 48) * 10 + (b.toNat - 48), rest)
    else some (a.toNat - 48, b :: rest)
  | [a] => if a.isDigit then some (a.toNat - 48, []) else none
  | [] => none

/-- Exactly two digits. -/
def twoDigits? (cs : List Char) : Option Nat :=
  match cs with
  | [a, b] => if a.isDigit && b.isDigit then some ((a.toNat - 48) * 10 + (b.toNat - 48)) else none
  | _ => none

/-- Expect a character. -/
def expectChar (c : Char) (cs : List Char) : Option (List Char) :=
  match cs with
  | d :: rest => if c = d then some rest else none
  | [] => none

/-- A clock `h:m:s` with an optional fraction after `.` or `,`: hours, minutes, seconds,
nanoseconds. -/
def clock? (cs : List Char) : Option ((Nat × Nat × Nat × Nat) × List Char) := do
  let (h, cs) ← shortNumber? cs
  let cs ← expectChar ':' cs
  let (mi, cs) ← shortNumber? cs
  let cs ← expectChar ':' cs
  let (s, cs) ← shortNumber? cs
  if h ≥ 24 || mi ≥ 60 || s ≥ 60 then none
  let (nanos, cs) : Nat × List Char := match cs with
    | p :: d :: rest =>
      if (p = '.' || p = ',') && d.isDigit then
        let ds := (d :: rest).takeWhile Char.isDigit
        (Time.fractionNanos ds, (d :: rest).dropWhile Char.isDigit)
      else (0, cs)
    | _ => (0, cs)
  return ((h, mi, s, nanos), cs)

/-- A zone `Z` (UTC) or `±hh:mm`: a zero offset is the host's zone (which is UTC here) and any
other a fixed zone. -/
def zoneOffset? (cs : List Char) : Option (Zone × List Char) :=
  match cs with
  | 'Z' :: rest => some (Zone.utc, rest)
  | sign :: h1 :: h2 :: ':' :: m1 :: m2 :: rest => do
    let h ← twoDigits? [h1, h2]
    let m ← twoDigits? [m1, m2]
    if h > 24 || m > 60 then none
    let size : Int := ((h * 60 + m) * 60 : Nat)
    let off ← if sign = '+' then some size else if sign = '-' then some (-size) else none
    some (if off = 0 then Zone.host else Zone.fixed off, rest)
  | _ => none

/-- Drop leading spaces. -/
def dropSpaces (cs : List Char) : List Char := cs.dropWhile (· = ' ')

/-- A timestamp: a date `yyyy-m-d`, alone, or followed by `T` or `t` and a clock with a zone, or
by spaces and a clock without one. A date without a zone is in UTC. -/
def timestamp? (s : String) : Option Time := do
  let cs := s.toList
  let lead := cs.takeWhile Char.isDigit
  if lead.length ≠ 4 || cs.drop 4 = [] || cs.getD 4 ' ' ≠ '-' then none
  let year : Nat := lead.foldl (fun n c => n * 10 + (c.toNat - 48)) 0
  let cs := cs.drop 5
  let (month, cs) ← shortNumber? cs
  let cs ← expectChar '-' cs
  let (day, cs) ← shortNumber? cs
  if month < 1 || month > 12 then none
  let date (h mi sec nanos : Nat) (zone : Zone) : Option Time :=
    if day < 1 || day > Calendar.daysIn year month then none
    else some (Time.ofLocal zone year month day h mi sec nanos)
  match cs with
  | [] => date 0 0 0 0 Zone.utc
  | c :: rest =>
    if c = 'T' || c = 't' then do
      let ((h, mi, sec, nanos), rest) ← clock? rest
      let (zone, rest) ← zoneOffset? rest
      if rest ≠ [] then none
      date h mi sec nanos zone
    else if c = ' ' then do
      let ((h, mi, sec, nanos), rest) ← clock? (dropSpaces rest)
      if rest ≠ [] then none
      date h mi sec nanos Zone.utc
    else none

/-- What a plain scalar reads as, with its tag, when read for a tag that admits it. -/
def implicitScalar (tag text : String) : String × Scalar :=
  let h := hint text
  if h = ' ' || tag = strTag then (strTag, .text text)
  else match fixedScalar? text with
    | some r => r
    | none =>
      if h = '.' then
        match decimalFloat? text.toList with
        | some x => (floatTag, .float x)
        | none => (strTag, .text text)
      else if h = 'D' || h = 'S' then
        let stamp := if tag = "" || tag = timestampTag then timestamp? text else none
        match stamp with
        | some t => (timestampTag, .time t)
        | none =>
          let plain := text.toList.filter (· ≠ '_')
          match signedPrefixed? plain with
          | some n => (intTag, .int n)
          | none =>
            match unsignedPrefixed? plain with
            | some n => (intTag, .int n)
            | none =>
              if floatShape plain then
                match decimalFloat? plain with
                | some x => (floatTag, .float x)
                | none => (strTag, .text text)
              else (strTag, .text text)
      else (strTag, .text text)

/-- What a scalar reads as under a tag (empty for none), with the tag it resolves to; a standard
tag that the text does not read as is an error. -/
def resolve (tag text : String) : Except String (String × Scalar) :=
  if !(tag = "" || tag = strTag || tag = boolTag || tag = intTag || tag = floatTag ||
      tag = timestampTag) then .ok (tag, .text text)
  else
    let (rtag, v) := implicitScalar tag text
    if tag = "" || tag = rtag || tag = strTag then .ok (rtag, v)
    else
      let fail : Except String (String × Scalar) :=
        .error ("yaml: cannot decode " ++ rtag ++ " `" ++ text ++ "` as a " ++ tag)
      if tag = floatTag && rtag = intTag then
        match v with
        | .int n => if n < Int.pow 2 63 then .ok (floatTag, .float (Float.ofInt n)) else fail
        | _ => fail
      else fail

/-- The value of a base64 character. -/
def base64Value? (c : Char) : Option Nat :=
  if 'A' ≤ c && c ≤ 'Z' then some (c.toNat - 65)
  else if 'a' ≤ c && c ≤ 'z' then some (c.toNat - 71)
  else if c.isDigit then some (c.toNat + 4)
  else if c = '+' then some 62 else if c = '/' then some 63 else none

/-- The bytes of padded base64 text; line breaks are ignored. -/
def base64Bytes? (text : String) : Option (List Nat) :=
  let rec walk : Nat → List Char → Option (List Nat)
    | 0, _ => none
    | _ + 1, [] => some []
    | fuel + 1, a :: b :: c :: d :: rest => do
      let va ← base64Value? a
      let vb ← base64Value? b
      if c = '=' then
        if d = '=' && rest = [] then some [(va * 4 + vb / 16) % 256] else none
      else
        let vc ← base64Value? c
        if d = '=' then
          if rest = [] then some [(va * 4 + vb / 16) % 256, (vb * 16 + vc / 4) % 256] else none
        else
          let vd ← base64Value? d
          let here := [(va * 4 + vb / 16) % 256, (vb * 16 + vc / 4) % 256, (vc * 64 + vd) % 256]
          let more ← walk fuel rest
          some (here ++ more)
    | _ + 1, _ => none
  let cs := text.toList.filter fun c => c ≠ '\n' && c ≠ '\r'
  walk (cs.length + 1) cs

end Yaml

end HostDispatch
