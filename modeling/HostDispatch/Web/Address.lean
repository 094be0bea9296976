import HostDispatch.Text.Utf8

/-!
# IP addresses

An IP address is read from bytes: dotted IPv4 when a `.` comes before any `:` or `%`, IPv6 when a
`:` does. An IPv4 address has four decimal fields of at most 255 without leading zeros. An IPv6
address has up to eight hexadecimal groups of at most four digits, separated by `:`; one `::` may
stand for one or more zero groups, the last two groups may be written as an IPv4 address, and a
`%` starts a zone that must not be empty.

A fault reads `ParseAddr("<input>"): <reason>`, followed by ` (at "<rest>")` when the reason points
at the rest of the input.
-/

namespace HostDispatch

/-- The families of IP addresses. -/
inductive AddressFamily where
  | v4
  | v6
deriving DecidableEq, Repr, Inhabited

namespace Address

/-- The byte of an ASCII character. -/
def byte (c : Char) : Nat := c.toNat

/-- Whether a byte is a decimal digit. -/
def isDigit (b : Nat) : Bool := 48 ≤ b && b ≤ 57

/-- The value of a hexadecimal digit. -/
def hexValue? (b : Nat) : Option Nat :=
  if 48 ≤ b && b ≤ 57 then some (b - 48)
  else if 97 ≤ b && b ≤ 102 then some (b - 87)
  else if 65 ≤ b && b ≤ 70 then some (b - 55)
  else none

/-- The fault of reading an input, pointing at a rest unless it is empty. -/
def fault (input : List Nat) (reason : String) (rest : List Nat) : String :=
  "ParseAddr(" ++ Text.quoteRaw input ++ "): " ++ reason ++
    (if rest.isEmpty then "" else " (at " ++ Text.quoteRaw rest ++ ")")

/-- Read the dotted fields of `s`, carrying the previous byte, the field so far, the fields done
and the digits of the current field; faults name the whole `input`. -/
def ipv4Fields (input : List Nat) :
    List Nat → Option Nat → Nat → Nat → Nat → Except String Unit
  | [], _, _, done, _ =>
    if done < 3 then .error (fault input "IPv4 address too short" []) else .ok ()
  | c :: rest, prev, val, done, digits =>
    if isDigit c then
      if digits = 1 && val = 0 then .error (fault input "IPv4 field has octet with leading zero" [])
      else
        let v := val * 10 + (c - 48)
        if v > 255 then .error (fault input "IPv4 field has value >255" [])
        else ipv4Fields input rest (some c) v done (digits + 1)
    else if c = byte '.' then
      if prev.isNone || rest.isEmpty || prev = some (byte '.') then
        .error (fault input "IPv4 field must have at least one digit" (c :: rest))
      else if done = 3 then .error (fault input "IPv4 address too long" [])
      else ipv4Fields input rest (some c) 0 (done + 1) 0
    else .error (fault input "unexpected character" (c :: rest))

/-- The hexadecimal digits at the front of a group: their count and value, and the rest. A fifth
digit is a fault. -/
def hexGroup (input : List Nat) :
    List Nat → Nat → Nat → List Nat → Except String (Nat × Nat × List Nat)
  | [], n, acc, _ => .ok (n, acc, [])
  | c :: rest, n, acc, group =>
    match hexValue? c with
    | none => .ok (n, acc, c :: rest)
    | some d =>
      if n > 3 then .error (fault input "each group must have 4 or less digits" group)
      else if acc * 16 + d > 0xFFFF then .error (fault input "IPv6 field has value >=2^16" group)
      else hexGroup input rest (n + 1) (acc * 16 + d) group

/-- Read the groups of an IPv6 address from `s`, with `filled` bytes of the address done and the
place of a `::` if one was seen. Each round reads one group of two bytes, so eight rounds reach
the sixteen bytes of an address. -/
def ipv6Groups (input : List Nat) : Nat → List Nat → Nat → Option Nat → Except String Unit
  | 0, s, filled, ellipsis => finish filled ellipsis s
  | fuel + 1, s, filled, ellipsis =>
    if filled ≥ 16 then finish filled ellipsis s
    else do
      let (n, _, rest) ← hexGroup input s 0 0 s
      if n = 0 then throw (fault input "each colon-separated field must have at least one digit" s)
      match rest with
      | [] => finish (filled + 2) ellipsis []
      | [c] =>
        if c = byte '.' then embedded filled ellipsis s
        else if c ≠ byte ':' then throw (fault input "unexpected character, want colon" rest)
        else throw (fault input "colon must be followed by more characters" rest)
      | c :: next :: more =>
        if c = byte '.' then embedded filled ellipsis s
        else if c ≠ byte ':' then throw (fault input "unexpected character, want colon" rest)
        else if next = byte ':' then
          if ellipsis.isSome then throw (fault input "multiple :: in address" (next :: more))
          else if more.isEmpty then finish (filled + 2) (some (filled + 2)) []
          else ipv6Groups input fuel more (filled + 2) (some (filled + 2))
        else ipv6Groups input fuel (next :: more) (filled + 2) ellipsis
where
  /-- Check what is left once no more groups are read: no text, and sixteen bytes exactly when
  there is no `::`. -/
  finish (filled : Nat) (ellipsis : Option Nat) (s : List Nat) : Except String Unit :=
    if !s.isEmpty then .error (fault input "trailing garbage after address" s)
    else if filled < 16 then
      if ellipsis.isNone then .error (fault input "address string too short" []) else .ok ()
    else if ellipsis.isSome then
      .error (fault input "the :: must expand to at least one field of zeros" s)
    else .ok ()
  /-- Read the last four bytes as a dotted IPv4 address starting at `s`. -/
  embedded (filled : Nat) (ellipsis : Option Nat) (s : List Nat) : Except String Unit := do
    if ellipsis.isNone && filled ≠ 12 then
      throw (fault input "embedded IPv4 address must replace the final 2 fields of the address" s)
    if filled + 4 > 16 then
      throw (fault input "too many hex fields to fit an embedded IPv4 at the end of the address" s)
    ipv4Fields input s none 0 0 0
    finish (filled + 4) ellipsis []

/-- Read an IPv6 address with an optional zone. -/
def ipv6 (input : List Nat) : Except String Unit := do
  let (s, zone) := match input.findIdx? (· = byte '%') with
    | some i => (input.take i, some (input.drop (i + 1)))
    | none => (input, none)
  if zone = some [] then throw (fault input "zone must be a non-empty string" [])
  match s with
  | 58 :: 58 :: rest =>
    if rest.isEmpty then return ()
    else ipv6Groups input 8 rest 0 (some 0)
  | _ => ipv6Groups input 8 s 0 none

/-- Read an IP address and tell its family. -/
def parse (input : List Nat) : Except String AddressFamily :=
  match input.find? fun b => b = byte '.' || b = byte ':' || b = byte '%' with
  | some 46 => (ipv4Fields input input none 0 0 0).map fun _ => .v4
  | some 58 => (ipv6 input).map fun _ => .v6
  | some _ => .error (fault input "missing IPv6 address" [])
  | none => .error (fault input "unable to parse IP" [])

end Address

end HostDispatch
