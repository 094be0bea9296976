import HostDispatch.Data.Json

/-!
# Reading JSON text

A reader for JSON text that reports the first fault the way a byte-at-a-time scanner meets it:
each message names the offending byte and what the scanner was looking for at that point
(`invalid character '}' after object key`). Running out of text inside a value is a fault of its
own, since a caller that reads a stream words it differently from one that reads a whole buffer.
-/

namespace HostDispatch

namespace Json

/-- Why a text is not one JSON value. -/
inductive ParseFault where
  /-- A byte that cannot stand where it stands; the text is the scanner's message. -/
  | malformed (message : String)
  /-- The text ended inside a value. -/
  | endOfInput
deriving Repr, Inhabited, DecidableEq

/-- The first byte of a character's UTF-8 form, read as a character of that code: the scanner
names bytes, so an accented letter is reported by its lead byte. -/
def leadByteChar (c : Char) : Char :=
  let n := c.toNat
  if n < 0x80 then c
  else if n < 0x800 then Char.ofNat (0xC0 + n / 64)
  else if n < 0x10000 then Char.ofNat (0xE0 + n / 4096)
  else Char.ofNat (0xF0 + n / 262144)

/-- The scanner's spelling of a byte in a message: in single quotes, with the escapes of a quoted
string for bytes that are not printable. -/
def quoteByte (c : Char) : String :=
  let b := leadByteChar c
  if b = '\'' then "'\\''"
  else if b = '"' then "'\"'"
  else if b = '\\' then "'\\\\'"
  else if b = '\n' then "'\\n'"
  else if b = '\r' then "'\\r'"
  else if b = '\t' then "'\\t'"
  else if b.toNat = 7 then "'\\a'"
  else if b.toNat = 8 then "'\\b'"
  else if b.toNat = 12 then "'\\f'"
  else if b.toNat = 11 then "'\\v'"
  else if b.toNat < 32 || b.toNat = 127 then "'\\x" ++ String.ofList [hexDigit (b.toNat / 16), hexDigit (b.toNat % 16)] ++ "'"
  else if b.toNat < 0xA0 && b.toNat ≥ 0x80 then "'\\u00" ++ String.ofList [hexDigit (b.toNat / 16), hexDigit (b.toNat % 16)] ++ "'"
  else if b.toNat = 0xAD then "'\\u00ad'"
  else "'" ++ b.toString ++ "'"

/-- The fault for a byte met in a given context. -/
def invalid (c : Char) (context : String) : ParseFault :=
  .malformed ("invalid character " ++ quoteByte c ++ " " ++ context)

/-- The blanks that may surround values. -/
def isBlank (c : Char) : Bool := c = ' ' || c = '\t' || c = '\n' || c = '\r'

/-- The text after leading blanks. -/
def skipBlank : List Char → List Char
  | c :: cs => if isBlank c then skipBlank cs else c :: cs
  | [] => []

/-- The value of a hexadecimal digit. -/
def hexValue? (c : Char) : Option Nat :=
  if '0' ≤ c ∧ c ≤ '9' then some (c.toNat - 48)
  else if 'a' ≤ c ∧ c ≤ 'f' then some (c.toNat - 87)
  else if 'A' ≤ c ∧ c ≤ 'F' then some (c.toNat - 55)
  else none

/-- The value of the four hex digits at the front of a `\u` escape. -/
def readHex4 (cs : List Char) : Except ParseFault Nat :=
  match cs with
  | a :: b :: c :: d :: _ =>
    match hexValue? a, hexValue? b, hexValue? c, hexValue? d with
    | some w, some x, some y, some z => .ok (((w * 16 + x) * 16 + y) * 16 + z)
    | none, _, _, _ => .error (invalid a "in \\u hexadecimal character escape")
    | _, none, _, _ => .error (invalid b "in \\u hexadecimal character escape")
    | _, _, none, _ => .error (invalid c "in \\u hexadecimal character escape")
    | _, _, _, none => .error (invalid d "in \\u hexadecimal character escape")
  | cs =>
    match cs.find? (fun c => (hexValue? c).isNone) with
    | some c => .error (invalid c "in \\u hexadecimal character escape")
    | none => .error .endOfInput

/-- The replacement character, for escapes that name half of a surrogate pair alone. -/
def replacement : Char := Char.ofNat 0xFFFD

/-- The body of a string literal after its opening quote: the decoded text and what follows the
closing quote. Escaped surrogate pairs join into one character. Each step reads at least one
character, so fuel of the text's length is enough. -/
def readStringBody : Nat → List Char → List Char → Except ParseFault (String × List Char)
  | 0, _, _ => .error .endOfInput
  | _ + 1, _, [] => .error .endOfInput
  | _ + 1, acc, '"' :: rest => .ok (String.ofList acc.reverse, rest)
  | fuel + 1, acc, '\\' :: rest =>
    match rest with
    | [] => .error .endOfInput
    | e :: rest' =>
      if e = '"' then readStringBody fuel ('"' :: acc) rest'
      else if e = '\\' then readStringBody fuel ('\\' :: acc) rest'
      else if e = '/' then readStringBody fuel ('/' :: acc) rest'
      else if e = 'b' then readStringBody fuel (Char.ofNat 8 :: acc) rest'
      else if e = 'f' then readStringBody fuel (Char.ofNat 12 :: acc) rest'
      else if e = 'n' then readStringBody fuel ('\n' :: acc) rest'
      else if e = 'r' then readStringBody fuel ('\r' :: acc) rest'
      else if e = 't' then readStringBody fuel ('\t' :: acc) rest'
      else if e = 'u' then
        match readHex4 rest' with
        | .error f => .error f
        | .ok n =>
          let after := rest'.drop 4
          if 0xD800 ≤ n ∧ n < 0xDC00 then
            match after with
            | '\\' :: 'u' :: more =>
              match readHex4 more with
              | .ok m =>
                if 0xDC00 ≤ m ∧ m < 0xE000 then
                  readStringBody fuel (Char.ofNat (0x10000 + (n - 0xD800) * 1024 + (m - 0xDC00)) :: acc)
                    (more.drop 4)
                else readStringBody fuel (replacement :: acc) after
              | .error _ => readStringBody fuel (replacement :: acc) after
            | _ => readStringBody fuel (replacement :: acc) after
          else if 0xDC00 ≤ n ∧ n < 0xE000 then readStringBody fuel (replacement :: acc) after
          else readStringBody fuel (Char.ofNat n :: acc) after
      else .error (invalid e "in string escape code")
  | fuel + 1, acc, c :: rest =>
    if c.toNat < 32 then .error (invalid c "in string literal")
    else readStringBody fuel (c :: acc) rest

/-- Digits at the front of a text. -/
def digitsPrefix (cs : List Char) : List Char × List Char :=
  (cs.takeWhile Char.isDigit, cs.dropWhile Char.isDigit)

/-- The fault of a numeric literal that stops where a digit is needed. -/
def needDigit : List Char → ParseFault
  | [] => .endOfInput
  | c :: _ => invalid c "in numeric literal"

/-- The exponent part of a number (after `e` or `E`), returning its text and the rest. -/
def readExponent (cs : List Char) : Except ParseFault (List Char × List Char) :=
  let (sign, cs') := match cs with
    | '+' :: r => (['+'], r)
    | '-' :: r => (['-'], r)
    | r => ([], r)
  match digitsPrefix cs' with
  | ([], _) => .error (needDigit cs')
  | (ds, rest) => .ok (sign ++ ds, rest)

/-- The integer part of a number: `0`, or digits. Returns its text and the rest. -/
def readIntPart (cs : List Char) : Except ParseFault (List Char × List Char) :=
  match cs with
  | '0' :: r => .ok (['0'], r)
  | r =>
    match digitsPrefix r with
    | ([], _) => .error (needDigit r)
    | p => .ok p

/-- The fraction part of a number (a dot and digits), or nothing. Returns its text and the
rest. -/
def readFraction (cs : List Char) : Except ParseFault (List Char × List Char) :=
  match cs with
  | '.' :: r =>
    match digitsPrefix r with
    | ([], _) => .error (needDigit r)
    | (ds, r') => .ok ('.' :: ds, r')
  | r => .ok ([], r)

/-- The exponent part of a number (`e` or `E` and an exponent), or nothing. Returns its text and
the rest. -/
def readExponentPart (cs : List Char) : Except ParseFault (List Char × List Char) :=
  match cs with
  | 'e' :: r => (readExponent r).map fun (e, r') => ('e' :: e, r')
  | 'E' :: r => (readExponent r).map fun (e, r') => ('E' :: e, r')
  | r => .ok ([], r)

/-- A number literal: an optional minus, an integer part without leading zeros, an optional
fraction and an optional exponent. Returns its text and the rest. -/
def readNumber (cs : List Char) : Except ParseFault (String × List Char) := do
  let (minus, cs1) := match cs with
    | '-' :: r => (['-'], r)
    | r => ([], r)
  let (intPart, cs2) ← readIntPart cs1
  let (frac, cs3) ← readFraction cs2
  let (expo, cs4) ← readExponentPart cs3
  pure (String.ofList (minus ++ intPart ++ frac ++ expo), cs4)

/-- The rest of a literal word (`true`, `false`, `null`) after its first letter. -/
def readWord (word : String) (expected : List Char) : List Char → Except ParseFault (List Char)
  | cs =>
    match expected, cs with
    | [], rest => .ok rest
    | _ :: _, [] => .error .endOfInput
    | e :: es, c :: rest =>
      if c = e then readWord word es rest
      else .error (.malformed ("invalid character " ++ quoteByte c ++ " in literal " ++ word ++
        " (expecting " ++ quoteByte e ++ ")"))

mutual
/-- One value at the front of a text (blanks first), and the rest after it. The fuel bounds the
nesting; the text's length is always enough. -/
def readValue (fuel : Nat) (cs : List Char) : Except ParseFault (Json × List Char) :=
  match fuel with
  | 0 => .error .endOfInput
  | fuel + 1 =>
    match skipBlank cs with
    | [] => .error .endOfInput
    | c :: rest =>
      if c = '{' then readObject fuel [] true rest
      else if c = '[' then readArray fuel [] true rest
      else if c = '"' then (readStringBody (rest.length + 1) [] rest).map (fun (s, r) => (.str s, r))
      else if c = '-' || c.isDigit then (readNumber (c :: rest)).map (fun (t, r) => (.num t, r))
      else if c = 't' then (readWord "true" ['r', 'u', 'e'] rest).map (fun r => (.bool true, r))
      else if c = 'f' then (readWord "false" ['a', 'l', 's', 'e'] rest).map (fun r => (.bool false, r))
      else if c = 'n' then (readWord "null" ['u', 'l', 'l'] rest).map (fun r => (.null, r))
      else .error (invalid c "looking for beginning of value")

/-- Members of an object after its opening brace (or after a comma when `first` is false). -/
def readObject (fuel : Nat) (acc : List (String × Json)) (first : Bool) (cs : List Char) :
    Except ParseFault (Json × List Char) :=
  match fuel with
  | 0 => .error .endOfInput
  | fuel + 1 =>
    match skipBlank cs with
    | [] => .error .endOfInput
    | c :: rest =>
      if c = '}' && first then .ok (.obj acc.reverse, rest)
      else if c = '"' then
        match readStringBody (rest.length + 1) [] rest with
        | .error f => .error f
        | .ok (key, rest') =>
          match skipBlank rest' with
          | [] => .error .endOfInput
          | ':' :: rest'' =>
            match readValue fuel rest'' with
            | .error f => .error f
            | .ok (v, rest3) =>
              match skipBlank rest3 with
              | [] => .error .endOfInput
              | d :: rest4 =>
                if d = ',' then readObject fuel ((key, v) :: acc) false rest4
                else if d = '}' then .ok (.obj ((key, v) :: acc).reverse, rest4)
                else .error (invalid d "after object key:value pair")
          | d :: _ => .error (invalid d "after object key")
      else .error (invalid c "looking for beginning of object key string")

/-- Items of an array after its opening bracket (or after a comma when `first` is false). -/
def readArray (fuel : Nat) (acc : List Json) (first : Bool) (cs : List Char) :
    Except ParseFault (Json × List Char) :=
  match fuel with
  | 0 => .error .endOfInput
  | fuel + 1 =>
    match skipBlank cs with
    | [] => .error .endOfInput
    | c :: rest =>
      if c = ']' && first then .ok (.arr acc.reverse, rest)
      else
        match readValue fuel (c :: rest) with
        | .error f => .error f
        | .ok (v, rest') =>
          match skipBlank rest' with
          | [] => .error .endOfInput
          | d :: rest'' =>
            if d = ',' then readArray fuel (v :: acc) false rest''
            else if d = ']' then .ok (.arr (v :: acc).reverse, rest'')
            else .error (invalid d "after array element")
end

/-- The first value of a text and the text after it. -/
def readPrefix (cs : List Char) : Except ParseFault (Json × List Char) :=
  readValue (2 * cs.length + 2) cs

/-- A whole text holding exactly one value, blanks around it allowed. -/
def parse (s : String) : Except ParseFault Json :=
  match readPrefix s.toList with
  | .error f => .error f
  | .ok (v, rest) =>
    match skipBlank rest with
    | [] => .ok v
    | c :: _ => .error (invalid c "after top-level value")

end Json

end HostDispatch
