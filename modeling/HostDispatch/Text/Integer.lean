import HostDispatch.Text.Quoted

/-!
# Reading decimal integers

A decimal integer is an optional sign and one or more digits, within the signed 64-bit range.
Reading fails with a malformed-text fault on any other text, and with a range fault when the digits pass
the range. Long texts (nineteen characters or more) are read digit by digit, and the first of the
two faults met decides; a shorter text cannot pass the range.

The message names the reading function and quotes the text:
`strconv.Atoi: parsing "x": invalid syntax`.
-/

namespace HostDispatch

namespace Integer

/-- Why a text is not an integer. -/
inductive Fault where
  | malformed
  | range
deriving DecidableEq, Repr

/-- The words of a fault. -/
def Fault.text : Fault → String
  | .malformed => "invalid syntax"
  | .range => "value out of range"

/-- The message of a fault of reading `s` with the named function. -/
def message (fn s : String) (f : Fault) : String :=
  "strconv." ++ fn ++ ": parsing " ++ Text.quote s ++ ": " ++ f.text

/-- The largest unsigned 64-bit value. -/
def maxWord : Nat := 18446744073709551615

/-- Unsigned digits read one at a time; the first character that is not a digit or the first
digit that passes `maxWord` ends the reading with its fault. -/
def readWord : Nat → List Char → Except Fault Nat
  | n, [] => .ok n
  | n, c :: cs =>
    if !c.isDigit then .error .malformed
    else
      let m := n * 10 + (c.toNat - 48)
      if m > maxWord then .error .range else readWord m cs

/-- Split off a leading sign. -/
def sign (cs : List Char) : Bool × List Char :=
  match cs with
  | '+' :: rest => (false, rest)
  | '-' :: rest => (true, rest)
  | _ => (false, cs)

/-- Read a signed 64-bit decimal integer. -/
def read (s : String) : Except Fault Int :=
  let cs := s.toList
  let (neg, digits) := sign cs
  if 0 < cs.length && cs.length < 19 then
    if digits.isEmpty || !digits.all Char.isDigit then .error .malformed
    else
      let v : Nat := digits.foldl (fun n c => n * 10 + (c.toNat - 48)) 0
      .ok (if neg then -(v : Int) else (v : Int))
  else if cs.isEmpty then .error .malformed
  else
    match readWord 0 digits with
    | .error f => .error f
    | .ok v =>
      if !neg && v ≥ Nat.pow 2 63 then .error .range
      else if neg && v > Nat.pow 2 63 then .error .range
      else .ok (if neg then -(v : Int) else (v : Int))

end Integer

end HostDispatch
