import HostDispatch.Text.Printable

/-!
# Quoted text

Two quoting rules appear in messages and output lines.

* `quote`: double quotes around the text; quote and backslash escaped; the usual one-letter escapes
  for bell, backspace, form feed, newline, return, tab and vertical tab; other control characters as
  `\xNN`; characters that are not printable (see `isPrintable`) as `\uNNNN` or `\UNNNNNNNN`;
  every printable character as itself.
* `quoteBytes`: the rule of duration and zone messages, which escapes every byte of a non-ASCII or
  control character as `\xNN` and keeps printable ASCII.
-/

namespace HostDispatch

namespace Text

/-- Hex digits of a number, lowercase, padded with zeros to a width. -/
def hexPadded (width n : Nat) : String :=
  let digits := (Nat.toDigits 16 n)
  String.ofList (List.replicate (width - digits.length) '0' ++ digits)

/-- The bytes of a character in UTF-8. -/
def utf8Bytes (c : Char) : List Nat :=
  let n := c.toNat
  if n < 0x80 then [n]
  else if n < 0x800 then [0xC0 + n / 64, 0x80 + n % 64]
  else if n < 0x10000 then [0xE0 + n / 4096, 0x80 + n / 64 % 64, 0x80 + n % 64]
  else [0xF0 + n / 262144, 0x80 + n / 4096 % 64, 0x80 + n / 64 % 64, 0x80 + n % 64]

/-- One character as written inside `quote`. -/
def quoteChar (c : Char) : String :=
  let n := c.toNat
  if c = '"' then "\\\""
  else if c = '\\' then "\\\\"
  else if isPrintable c then c.toString
  else if n = 7 then "\\a"
  else if n = 8 then "\\b"
  else if n = 12 then "\\f"
  else if n = 10 then "\\n"
  else if n = 13 then "\\r"
  else if n = 9 then "\\t"
  else if n = 11 then "\\v"
  else if n < 0x20 || n = 0x7F then "\\x" ++ hexPadded 2 n
  else if n < 0x10000 then "\\u" ++ hexPadded 4 n
  else "\\U" ++ hexPadded 8 n

/-- Text in double quotes with the escapes of `quoteChar`. -/
def quote (s : String) : String :=
  "\"" ++ String.join (s.toList.map quoteChar) ++ "\""

/-- One character as written inside `quoteBytes`. -/
def quoteByteChar (c : Char) : String :=
  if c.toNat < 0x20 || c.toNat ≥ 0x80 then
    String.join ((utf8Bytes c).map (fun b => "\\x" ++ hexPadded 2 b))
  else if c = '"' then "\\\""
  else if c = '\\' then "\\\\"
  else c.toString

/-- Text in double quotes, every byte of a control or non-ASCII character written as `\xNN`. -/
def quoteBytes (s : String) : String :=
  "\"" ++ String.join (s.toList.map quoteByteChar) ++ "\""

end Text

end HostDispatch
