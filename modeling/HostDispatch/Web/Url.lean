import HostDispatch.Text.Utf8
import HostDispatch.Web.Address

/-!
# URLs

A URL is read from text as a scheme, then either a bare part (a scheme followed by something
that does not start with `/`) or an optional authority (`//user:password@host:port`) and a path,
then a query after `?` and a fragment after `#`. The parts are held as byte strings: `%XX` escapes
in the host, user information, path and fragment are decoded, and may spell any bytes. The path
and fragment also keep the text they were read from when escaping them again would not give it
back, so that printing a URL repeats the escapes it was written with.

Escaping depends on the part: unreserved bytes (letters, digits, `-_.~`) are never escaped, some
reserved bytes are kept in some parts, and every other byte is written `%XX`. A host may not
escape ASCII bytes (only `%25` in an IPv6 zone) and may not hold bytes outside its own set; a host
in brackets must be an IPv6 address.

A reference is resolved against a base URL as for following a redirect: a reference with a scheme
or a host stands alone, and a path is merged with the base path and its dot segments removed.
-/

namespace HostDispatch

/-- The part of a URL a byte string belongs to, which decides what is escaped. -/
inductive UrlPart where
  | path
  | pathSegment
  | host
  | zone
  | userPassword
  | queryComponent
  | fragment
deriving DecidableEq

/-- The user information of a URL. -/
structure Userinfo where
  username : List Nat
  password : Option (List Nat)
deriving DecidableEq

/-- A URL, its parts as byte strings. -/
structure Url where
  scheme : List Nat
  bare : List Nat
  user : Option Userinfo
  host : List Nat
  path : List Nat
  /-- The path as written, when escaping the path again would not give it back. -/
  rawPath : List Nat
  /-- The authority was empty (`scheme:///path`). -/
  omitHost : Bool
  /-- The URL ends in a `?` with an empty query. -/
  forceQuery : Bool
  rawQuery : List Nat
  fragment : List Nat
  rawFragment : List Nat
deriving DecidableEq

namespace Url

/-- A URL with nothing in it. -/
def empty : Url :=
  { scheme := [], bare := [], user := none, host := [], path := [], rawPath := [],
    omitHost := false, forceQuery := false, rawQuery := [], fragment := [], rawFragment := [] }

/-- The byte of an ASCII character. -/
def byte (c : Char) : Nat := c.toNat

/-- The bytes of ASCII text. -/
def ascii (s : String) : List Nat := s.toList.map byte

/-- An ASCII letter or digit. -/
def isAlnum (b : Nat) : Bool :=
  (byte 'a' ≤ b && b ≤ byte 'z') || (byte 'A' ≤ b && b ≤ byte 'Z') || (byte '0' ≤ b && b ≤ byte '9')

/-- Whether a byte is one of the characters of an ASCII text. -/
def oneOf (s : String) (b : Nat) : Bool := (ascii s).contains b

/-- Whether a byte must be escaped in a part. -/
def shouldEscape (c : Nat) (p : UrlPart) : Bool :=
  if isAlnum c then false
  else if (p = .host || p = .zone) && oneOf "!$&\x27()*+,;=:[]<>\"" c then false
  else if oneOf "-_.~" c then false
  else if oneOf "$&+,/:;=?@" c then
    match p with
    | .path => c = byte '?'
    | .pathSegment => c = byte '/' || c = byte ';' || c = byte ',' || c = byte '?'
    | .userPassword => c = byte '@' || c = byte '/' || c = byte '?' || c = byte ':'
    | .queryComponent => true
    | .fragment => false
    | _ => true
  else if p = .fragment && oneOf "!()*" c then false
  else true

/-- A hexadecimal digit. -/
def isHex (b : Nat) : Bool :=
  (byte '0' ≤ b && b ≤ byte '9') || (byte 'a' ≤ b && b ≤ byte 'f') || (byte 'A' ≤ b && b ≤ byte 'F')

/-- The value of a hexadecimal digit. -/
def hexValue (b : Nat) : Nat :=
  if byte '0' ≤ b && b ≤ byte '9' then b - byte '0'
  else if byte 'a' ≤ b && b ≤ byte 'f' then b - byte 'a' + 10
  else if byte 'A' ≤ b && b ≤ byte 'F' then b - byte 'A' + 10
  else 0

/-- The uppercase hexadecimal digit of a value below 16. -/
def upperHex (n : Nat) : Nat := if n < 10 then byte '0' + n else byte 'A' + n - 10

/-- The fault of a malformed escape. -/
def escapeFault (s : List Nat) : String := "invalid URL escape " ++ Text.quoteRaw s

/-- Check the escapes of a part: each `%` starts two hexadecimal digits; a host escapes only
non-ASCII bytes (and `%25`) and holds only its own ASCII bytes; a zone escapes only bytes it could
hold. -/
def checkEscapes (p : UrlPart) : List Nat → Except String Unit
  | [] => .ok ()
  | c :: rest =>
    if c = byte '%' then
      match rest with
      | a :: b :: more =>
        if !(isHex a && isHex b) then .error (escapeFault (c :: (rest.take 2)))
        else
          let three := [c, a, b]
          let isPercent := a = byte '2' && b = byte '5'
          if p = .host && hexValue a < 8 && !isPercent then .error (escapeFault three)
          else if p = .zone && !isPercent && hexValue a * 16 + hexValue b ≠ byte ' ' &&
              shouldEscape (hexValue a * 16 + hexValue b) .host then .error (escapeFault three)
          else checkEscapes p more
      | _ => .error (escapeFault (c :: rest.take 2))
    else if (p = .host || p = .zone) && c < 0x80 && shouldEscape c p then
      .error ("invalid character " ++ Text.quoteRaw [c] ++ " in host name")
    else checkEscapes p rest

/-- Decode the escapes of checked bytes; `+` is a space in a query component. -/
def decodeEscapes (p : UrlPart) : List Nat → List Nat
  | [] => []
  | c :: a :: b :: more =>
    if c = byte '%' then (hexValue a * 16 + hexValue b) :: decodeEscapes p more
    else if c = byte '+' && p = .queryComponent then byte ' ' :: decodeEscapes p (a :: b :: more)
    else c :: decodeEscapes p (a :: b :: more)
  | c :: rest =>
    if c = byte '+' && p = .queryComponent then byte ' ' :: decodeEscapes p rest
    else c :: decodeEscapes p rest

/-- Read the escapes of a part. -/
def unescape (s : List Nat) (p : UrlPart) : Except String (List Nat) := do
  checkEscapes p s
  return decodeEscapes p s

/-- Escape the bytes of a part that must be escaped. -/
def escape (s : List Nat) (p : UrlPart) : List Nat :=
  s.flatMap fun c =>
    if c = byte ' ' && p = .queryComponent then [byte '+']
    else if shouldEscape c p then [byte '%', upperHex (c / 16), upperHex (c % 16)]
    else [c]

/-- Whether written bytes are a valid escaped form of a part. -/
def validEncoded (s : List Nat) (p : UrlPart) : Bool :=
  s.all fun c => oneOf "!$&\x27()*+,;=:@[]%" c || !shouldEscape c p

/-- The bytes before the first occurrence of a byte, the bytes after it, and whether it occurs. -/
def cutAt (b : Nat) (s : List Nat) : List Nat × List Nat × Bool :=
  (s.takeWhile (· ≠ b), (s.dropWhile (· ≠ b)).drop 1, s.contains b)

/-- The position of the last occurrence of a byte. -/
def lastIndex (b : Nat) (s : List Nat) : Option Nat :=
  ((s.zipIdx.filter (·.1 = b)).getLast?).map (·.2)

/-- The position of the first occurrence of a byte string. -/
def findPart (needle s : List Nat) : Option Nat :=
  (List.range (s.length + 1)).find? fun i => (s.drop i).take needle.length = needle

/-- The scheme before the first `:` and the rest; no scheme when a character that cannot be in a
scheme comes first. -/
def splitScheme (s : List Nat) : Except String (List Nat × List Nat) :=
  let rec walk : Nat → List Nat → Except String (List Nat × List Nat)
    | _, [] => .ok ([], s)
    | i, c :: rest =>
      if (byte 'a' ≤ c && c ≤ byte 'z') || (byte 'A' ≤ c && c ≤ byte 'Z') then walk (i + 1) rest
      else if (byte '0' ≤ c && c ≤ byte '9') || c = byte '+' || c = byte '-' || c = byte '.' then
        if i = 0 then .ok ([], s) else walk (i + 1) rest
      else if c = byte ':' then
        if i = 0 then .error "missing protocol scheme" else .ok (s.take i, s.drop (i + 1))
      else .ok ([], s)
  walk 0 s

/-- A port part: empty, or `:` and digits. -/
def validOptionalPort : List Nat → Bool
  | [] => true
  | c :: rest => c = byte ':' && rest.all fun d => byte '0' ≤ d && d ≤ byte '9'

/-- The host of an authority, with its port. A host in brackets must read as an IPv6 address, with
its zone introduced by `%25`. -/
def readHost (host : List Nat) : Except String (List Nat) := do
  if host.head? = some (byte '[') then
    match lastIndex (byte ']') host with
    | none => throw "missing \x27]\x27 in host"
    | some i =>
      let colonPort := host.drop (i + 1)
      if !validOptionalPort colonPort then
        throw ("invalid port " ++ Text.quoteRaw colonPort ++ " after host")
      let port ← unescape colonPort .host
      let name := (host.take i).drop 1
      let address ← match findPart (ascii "%25") name with
        | some z => do
          let h ← unescape (name.take z) .host
          let zone ← unescape (name.drop z) .zone
          pure (h ++ zone)
        | none => unescape name .host
      match Address.parse address with
      | .error e => throw ("invalid host: " ++ e)
      | .ok .v4 => throw "invalid IP-literal"
      | .ok .v6 => return [byte '['] ++ address ++ [byte ']'] ++ port
  else
    match lastIndex (byte ':') host with
    | some i =>
      let colonPort := host.drop i
      if !validOptionalPort colonPort then
        throw ("invalid port " ++ Text.quoteRaw colonPort ++ " after host")
      unescape host .host
    | none => unescape host .host

/-- Whether user information holds only the characters it may. -/
def validUserinfo (s : List Nat) : Bool :=
  s.all fun c => isAlnum c || oneOf "-._:~!$&\x27()*+,;=%@" c

/-- The user information and host of an authority. -/
def readAuthority (authority : List Nat) : Except String (Option Userinfo × List Nat) := do
  match lastIndex (byte '@') authority with
  | none => return (none, ← readHost authority)
  | some i =>
    let host ← readHost (authority.drop (i + 1))
    let info := authority.take i
    if !validUserinfo info then throw "net/url: invalid userinfo"
    let (name, pass, hasColon) := cutAt (byte ':') info
    if !hasColon then return (some ⟨← unescape info .userPassword, none⟩, host)
    return (some ⟨← unescape name .userPassword, some (← unescape pass .userPassword)⟩, host)

/-- Set the path from its written form. -/
def withPath (u : Url) (p : List Nat) : Except String Url := do
  let path ← unescape p .path
  return { u with path := path, rawPath := if escape path .path = p then [] else p }

/-- Read a URL without its fragment. -/
def readBody (raw : List Nat) : Except String Url := do
  if raw.any fun b => b < 0x20 || b = 0x7F then throw "net/url: invalid control character in URL"
  if raw = [byte '*'] then return { empty with path := raw }
  let (scheme, rest) ← splitScheme raw
  let scheme := scheme.map fun c => if byte 'A' ≤ c && c ≤ byte 'Z' then c + 32 else c
  let (rest, forceQuery, rawQuery) : List Nat × Bool × List Nat :=
    if rest.getLast? = some (byte '?') && rest.count (byte '?') = 1 then (rest.dropLast, true, [])
    else
      let (a, b, _) := cutAt (byte '?') rest
      (a, false, b)
  let base := { empty with scheme := scheme, forceQuery := forceQuery, rawQuery := rawQuery }
  if rest.head? ≠ some (byte '/') then
    if scheme ≠ [] then return { base with bare := rest }
    if (cutAt (byte '/') rest).1.contains (byte ':') then
      throw "first path segment in URL cannot contain colon"
  let slash2 := rest.take 2 = ascii "//"
  if (scheme ≠ [] || rest.take 3 ≠ ascii "///") && slash2 then
    let authority := rest.drop 2
    let (auth, path) := match authority.idxOf? (byte '/') with
      | some i => (authority.take i, authority.drop i)
      | none => (authority, [])
    let (user, host) ← readAuthority auth
    withPath { base with user := user, host := host } path
  else if scheme ≠ [] && rest.head? = some (byte '/') then withPath { base with omitHost := true } rest
  else withPath base rest

/-- A URL that cannot be read: the text that was read and why it was refused. -/
structure ParseFault where
  text : List Nat
  reason : String

/-- The message of a refused URL: `parse "text": reason`. -/
def ParseFault.message (e : ParseFault) : String :=
  "parse " ++ Text.quoteRaw e.text ++ ": " ++ e.reason

/-- Read a URL from text. A fault in the fragment names the whole text, any other fault the text
before the fragment. -/
def parse (s : String) : Except ParseFault Url :=
  let raw := Text.bytes s
  let (body, frag, _) := cutAt (byte '#') raw
  match readBody body with
  | .error e => .error ⟨body, e⟩
  | .ok u =>
    if frag = [] then .ok u
    else
      match unescape frag .fragment with
      | .error e => .error ⟨raw, e⟩
      | .ok f => .ok { u with fragment := f, rawFragment := if escape f .fragment = frag then [] else frag }

/-- The path as written: the written form when it is valid and means the same path, else the path
escaped. -/
def escapedPath (u : Url) : List Nat :=
  let written : Option (List Nat) :=
    if u.rawPath ≠ [] && validEncoded u.rawPath .path then
      match unescape u.rawPath .path with
      | .ok p => if p = u.path then some u.rawPath else none
      | .error _ => none
    else none
  match written with
  | some w => w
  | none => if u.path = [byte '*'] then u.path else escape u.path .path

/-- The fragment as written, by the rule of `escapedPath`. -/
def escapedFragment (u : Url) : List Nat :=
  let written : Option (List Nat) :=
    if u.rawFragment ≠ [] && validEncoded u.rawFragment .fragment then
      match unescape u.rawFragment .fragment with
      | .ok f => if f = u.fragment then some u.rawFragment else none
      | .error _ => none
    else none
  written.getD (escape u.fragment .fragment)

/-- User information as written. -/
def userText (i : Userinfo) : List Nat :=
  escape i.username .userPassword ++
    (match i.password with
      | some p => byte ':' :: escape p .userPassword
      | none => [])

/-- A URL as written. -/
def bytesOf (u : Url) : List Nat :=
  let head := if u.scheme ≠ [] then u.scheme ++ [byte ':'] else []
  let body :=
    if u.bare ≠ [] then u.bare
    else
      let authority :=
        if (u.scheme ≠ [] || u.host ≠ [] || u.user.isSome) &&
            !(u.omitHost && u.host = [] && u.user.isNone) then
          (if u.host ≠ [] || u.path ≠ [] || u.user.isSome then ascii "//" else []) ++
          (match u.user with
            | some i => userText i ++ [byte '@']
            | none => []) ++
          escape u.host .host
        else []
      let path := u.escapedPath
      let sep := if path ≠ [] && path.head? ≠ some (byte '/') && u.host ≠ [] then [byte '/'] else []
      let soFar := head ++ authority ++ sep
      let dot := if soFar = [] && (cutAt (byte '/') path).1.contains (byte ':') then ascii "./" else []
      authority ++ sep ++ dot ++ path
  let query := if u.forceQuery || u.rawQuery ≠ [] then byte '?' :: u.rawQuery else []
  let frag := if u.fragment ≠ [] then byte '#' :: u.escapedFragment else []
  head ++ body ++ query ++ frag

/-- A URL as written, as text. -/
def text (u : Url) : String := Text.lossy u.bytesOf

/-- A URL as written with its password, if any, replaced by `xxxxx`. -/
def redacted (u : Url) : String :=
  match u.user with
  | some ⟨name, some _⟩ => text { u with user := some ⟨name, some (ascii "xxxxx")⟩ }
  | _ => u.text

/-- The bytes with the first occurrence of a nonempty pattern replaced. -/
def replaceFirst (pat rep : List Nat) : List Nat → List Nat
  | [] => []
  | c :: rest =>
    if pat ≠ [] && (c :: rest).take pat.length = pat then rep ++ (c :: rest).drop pat.length
    else c :: replaceFirst pat rep rest

/-- A URL as written with its password, if any, shown as `***` after the plain user name. -/
def withoutPassword (u : Url) : String :=
  match u.user with
  | some i =>
    if i.password.isSome then
      Text.lossy (replaceFirst (userText i ++ [byte '@']) (i.username ++ ascii ":***@") u.bytesOf)
    else u.text
  | none => u.text

/-- A URL as written without its user information. -/
def withoutUser (u : Url) : String :=
  match u.user with
  | some i => Text.lossy (replaceFirst (userText i ++ [byte '@']) [] u.bytesOf)
  | none => u.text

/-- The host without its port, and without the brackets of an IPv6 address. -/
def hostname (u : Url) : List Nat :=
  let h := match lastIndex (byte ':') u.host with
    | some i => if validOptionalPort (u.host.drop i) then u.host.take i else u.host
    | none => u.host
  if h.head? = some (byte '[') && h.getLast? = some (byte ']') then (h.drop 1).dropLast else h

/-- A host with an empty port dropped: `host:` becomes `host`. -/
def dropEmptyPort (host : List Nat) : List Nat :=
  let hasPort := match lastIndex (byte ':') host, lastIndex (byte ']') host with
    | some c, some b => decide (c > b)
    | some _, none => true
    | none, _ => false
  if hasPort && host.getLast? = some (byte ':') then host.dropLast else host

/-- The segments of a path between slashes. -/
def segments (s : List Nat) : List (List Nat) := s.splitOn (byte '/')

/-- A path with its dot segments removed, starting with `/`. -/
def removeDots (full : List Nat) : List Nat :=
  if full = [] then []
  else
    let segs := segments full
    let step (acc : List Nat × Bool) (elem : List Nat) : List Nat × Bool :=
      let (dst, first) := acc
      if elem = [byte '.'] then (dst, false)
      else if elem = [byte '.', byte '.'] then
        let str := dst.drop 1
        match lastIndex (byte '/') str with
        | none => ([byte '/'], true)
        | some i => (byte '/' :: str.take i, first)
      else ((if first then dst else dst ++ [byte '/']) ++ elem, false)
    let (dst, _) := segs.foldl step ([byte '/'], true)
    let last := segs.getLast?.getD []
    let dst := if last = [byte '.'] || last = [byte '.', byte '.'] then dst ++ [byte '/'] else dst
    match dst with
    | _ :: second :: _ => if second = byte '/' then dst.drop 1 else dst
    | _ => dst

/-- A reference path merged with a base path. -/
def mergePaths (base ref : List Nat) : List Nat :=
  let full :=
    if ref = [] then base
    else if ref.head? ≠ some (byte '/') then
      match lastIndex (byte '/') base with
      | some i => base.take (i + 1) ++ ref
      | none => ref
    else ref
  removeDots full

/-- A reference resolved against a base URL. -/
def resolve (base ref : Url) : Url :=
  let u := if ref.scheme = [] then { ref with scheme := base.scheme } else ref
  let setPath (v : Url) (p : List Nat) : Url :=
    match withPath v p with
    | .ok w => w
    | .error _ => v
  if ref.scheme ≠ [] || ref.host ≠ [] || ref.user.isSome then setPath u (mergePaths ref.escapedPath [])
  else if ref.bare ≠ [] then { u with user := none, host := [], path := [] }
  else
    let u :=
      if ref.path = [] && !ref.forceQuery && ref.rawQuery = [] then
        let u := { u with rawQuery := base.rawQuery }
        if ref.fragment = [] then { u with fragment := base.fragment, rawFragment := base.rawFragment }
        else u
      else u
    if ref.path = [] && base.bare ≠ [] then
      { u with bare := base.bare, user := none, host := [], path := [] }
    else setPath { u with host := base.host, user := base.user }
      (mergePaths base.escapedPath ref.escapedPath)

end Url

end HostDispatch
