import HostDispatch.Text.Quoted

/-!
# Durations

A duration is a signed count of nanoseconds within the 64-bit range.

`Duration.text` writes the largest units first: hours, minutes and seconds with a decimal fraction
of the second (`1h30m0s`, `1.5s`); below a second a single unit of ms, µs or ns with a fraction
(`1.234µs`); zero is `0s`. Trailing zeros of a fraction are dropped.

`Duration.parse` reads a signed sequence of decimal numbers, each with an optional fraction and a
unit (`ns`, `us`, `µs`, `μs`, `ms`, `s`, `m`, `h`), as in `300ms`, `-1.5h` or `2h45m`. A fraction is
scaled to the unit in binary floating point and truncated, so digits below a nanosecond vanish.
-/

namespace HostDispatch

namespace Duration

/-- Nanoseconds in each unit of the duration grammar. -/
def unitValue? (u : String) : Option Nat :=
  if u = "ns" then some 1
  else if u = "us" || u = "µs" || u = "μs" then some 1000
  else if u = "ms" then some 1000000
  else if u = "s" then some 1000000000
  else if u = "m" then some 60000000000
  else if u = "h" then some 3600000000000
  else none

/-- The fraction part of `v / 10^prec`: a point and the digits without trailing zeros, or nothing
when the fraction is zero. -/
def fraction (v : Nat) (prec : Nat) : String :=
  let f := v % Nat.pow 10 prec
  if f = 0 then ""
  else
    let s := toString f
    let digits := String.ofList (List.replicate (prec - s.length) '0') ++ s
    "." ++ String.ofList (digits.toList.reverse.dropWhile (· = '0')).reverse

/-- The text of an unsigned count of nanoseconds. -/
def magnitudeText (u : Nat) : String :=
  if u = 0 then "0s"
  else if u < 1000 then toString u ++ "ns"
  else if u < 1000000 then toString (u / 1000) ++ fraction u 3 ++ "µs"
  else if u < 1000000000 then toString (u / 1000000) ++ fraction u 6 ++ "ms"
  else
    let secs := u / 1000000000
    let tail := toString (secs % 60) ++ fraction u 9 ++ "s"
    let mins := secs / 60
    if mins = 0 then tail
    else
      let tail := toString (mins % 60) ++ "m" ++ tail
      let hours := mins / 60
      if hours = 0 then tail else toString hours ++ "h" ++ tail

/-- The text of a duration. -/
def text (d : Int) : String :=
  if d < 0 then "-" ++ magnitudeText d.natAbs else magnitudeText d.toNat

/-- Two to the 63rd, the magnitude bound of the grammar's arithmetic. -/
def bound : Nat := 9223372036854775808

/-- Leading digits as an integer, failing when the value passes `bound`. -/
def leadingInt (cs : List Char) : Option (Nat × List Char) :=
  let ds := cs.takeWhile Char.isDigit
  let rest := cs.dropWhile Char.isDigit
  let step (acc : Option Nat) (c : Char) : Option Nat :=
    match acc with
    | none => none
    | some x =>
      if x > bound / 10 then none
      else
        let y := x * 10 + (c.toNat - 48)
        if y > bound then none else some y
  (ds.foldl step (some 0)).map (fun x => (x, rest))

/-- Leading fraction digits: their value and ten to the number of digits kept; digits past the
point where the value would pass `bound` are read and dropped. -/
def leadingFraction (cs : List Char) : Nat × Nat × List Char :=
  let ds := cs.takeWhile Char.isDigit
  let rest := cs.dropWhile Char.isDigit
  let step (acc : Nat × Nat × Bool) (c : Char) : Nat × Nat × Bool :=
    let (x, scale, overflow) := acc
    if overflow then acc
    else if x > (bound - 1) / 10 then (x, scale, true)
    else
      let y := x * 10 + (c.toNat - 48)
      if y > bound then (x, scale, true) else (y, scale * 10, false)
  let (x, scale, _) := ds.foldl step (0, 1, false)
  (x, scale, rest)

/-- The nanoseconds that a fraction `f / scale` of a unit adds, computed the way binary floating
point does it: the unit divided by the scale, times the fraction, truncated. -/
def fractionNanos (f scale unit : Nat) : Nat :=
  ((Float.ofNat f) * ((Float.ofNat unit) / (Float.ofNat scale))).toUInt64.toNat

/-- Whether a character starts a number of the grammar. -/
def startsNumber (c : Char) : Bool := c = '.' || c.isDigit

/-- The terms of a duration after its sign: the running total (kept modulo 2^64, as an unsigned
word keeps it) or the message of the first fault. Every term reads at least one character, so the
text's length bounds the loop. -/
def terms (orig : String) : Nat → Nat → List Char → Except String Nat
  | 0, d, _ => .ok d
  | _, d, [] => .ok d
  | fuel + 1, d, c :: cs =>
    let invalid := "time: invalid duration " ++ Text.quoteBytes orig
    if !startsNumber c then .error invalid
    else
      match leadingInt (c :: cs) with
      | none => .error invalid
      | some (v, afterInt) =>
        let pre := decide (afterInt.length ≠ (c :: cs).length)
        let (f, scale, afterFrac, post) := match afterInt with
          | '.' :: more =>
            let (f, scale, rest) := leadingFraction more
            (f, scale, rest, decide (rest.length ≠ more.length))
          | other => (0, 1, other, false)
        if !pre && !post then .error invalid
        else
          let unitChars := afterFrac.takeWhile (fun ch => !startsNumber ch)
          let rest := afterFrac.dropWhile (fun ch => !startsNumber ch)
          if unitChars.isEmpty then
            .error ("time: missing unit in duration " ++ Text.quoteBytes orig)
          else
            let u := String.ofList unitChars
            match unitValue? u with
            | none =>
              .error ("time: unknown unit " ++ Text.quoteBytes u ++ " in duration " ++
                Text.quoteBytes orig)
            | some unit =>
              if v > bound / unit then .error invalid
              else
                let v := v * unit
                let v := if f > 0 then v + fractionNanos f scale unit else v
                if v > bound then .error invalid
                else
                  let d := (d + v) % 18446744073709551616
                  if d > bound then .error invalid else terms orig fuel d rest

/-- Read a duration. -/
def parse (s : String) : Except String Int :=
  let invalid := "time: invalid duration " ++ Text.quoteBytes s
  let (neg, body) := match s.toList with
    | '-' :: r => (true, r)
    | '+' :: r => (false, r)
    | r => (false, r)
  if body = ['0'] then .ok 0
  else if body.isEmpty then .error invalid
  else
    match terms s (body.length + 1) 0 body with
    | .error e => .error e
    | .ok d =>
      if neg then .ok (-(d : Int))
      else if d > bound - 1 then .error invalid
      else .ok d

end Duration

end HostDispatch
