import HostDispatch.Text.Quoted

/-!
# Byte strings

Some texts are read as bytes: URL escapes and base64 data may spell any bytes, not only the
UTF-8 encoding of characters. A byte string is read back as characters one UTF-8 sequence at a
time; a byte that does not start a valid sequence (overlong, a surrogate, past U+10FFFF, or cut
short) is one invalid byte. Written as text, each invalid byte becomes U+FFFD; quoted, it becomes
`\xNN`.
-/

namespace HostDispatch

namespace Text

/-- The UTF-8 bytes of a text. -/
def bytes (s : String) : List Nat := s.toList.flatMap utf8Bytes

/-- Whether a byte lies within bounds. -/
def within (lo hi : Nat) (b : Nat) : Bool := lo ≤ b && b ≤ hi

/-- The character at the front of a byte string and the bytes after it, or none when the first
byte does not start a valid UTF-8 sequence. -/
def decodeFront : List Nat → Option (Char × List Nat)
  | [] => none
  | b0 :: rest =>
    if b0 < 0x80 then some (Char.ofNat b0, rest)
    else
      let lo1 := if b0 = 0xE0 then 0xA0 else if b0 = 0xF0 then 0x90 else 0x80
      let hi1 := if b0 = 0xED then 0x9F else if b0 = 0xF4 then 0x8F else 0xBF
      match rest with
      | b1 :: r1 =>
        if within 0xC2 0xDF b0 && within 0x80 0xBF b1 then
          some (Char.ofNat ((b0 % 32) * 64 + b1 % 64), r1)
        else
          match r1 with
          | b2 :: r2 =>
            if within 0xE0 0xEF b0 && within lo1 hi1 b1 && within 0x80 0xBF b2 then
              some (Char.ofNat ((b0 % 16) * 4096 + (b1 % 64) * 64 + b2 % 64), r2)
            else
              match r2 with
              | b3 :: r3 =>
                if within 0xF0 0xF4 b0 && within lo1 hi1 b1 && within 0x80 0xBF b2 &&
                    within 0x80 0xBF b3 then
                  some (Char.ofNat ((b0 % 8) * 262144 + (b1 % 64) * 4096 + (b2 % 64) * 64 + b3 % 64),
                    r3)
                else none
              | [] => none
          | [] => none
      | [] => none

/-- Walk a byte string: each valid character and each invalid byte, in order. -/
def pieces : Nat → List Nat → List (Sum Char Nat)
  | 0, _ => []
  | _, [] => []
  | fuel + 1, b :: rest =>
    match decodeFront (b :: rest) with
    | some (c, more) => .inl c :: pieces fuel more
    | none => .inr b :: pieces fuel rest

/-- A byte string as text, each invalid byte as U+FFFD. -/
def lossy (bs : List Nat) : String :=
  String.ofList ((pieces (bs.length + 1) bs).map fun
    | .inl c => c
    | .inr _ => Char.ofNat 0xFFFD)

/-- A byte string in double quotes, with the escapes of `quote` and each invalid byte as
`\xNN`. -/
def quoteRaw (bs : List Nat) : String :=
  "\"" ++ String.join ((pieces (bs.length + 1) bs).map fun
    | .inl c => quoteChar c
    | .inr b => "\\x" ++ hexPadded 2 b) ++ "\""

end Text

end HostDispatch
