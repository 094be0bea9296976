/-!
# Shortest decimal text of binary floating-point values

A finite double stands for the interval of reals that round to it: from halfway to its lower
neighbour to halfway to its upper one, both ends included exactly when its significand is even.
Its shortest text is the decimal with the fewest significant digits in that interval, the nearer of
two candidates when both qualify. The search tries one digit, then two, and so on; on each grid
only the two neighbours of the value can qualify first, so it tests those two, by exact comparison
of naturals.

Two layouts of those digits are used:

* `general`: positional when the decimal exponent of the leading digit is from -4 to 5, else
  scientific as `d.ddde±XX` with at least two exponent digits (`1e+06`, `1.5e-07`);
* `script`: positional when the value is at least 1e-6 and below 1e21, else scientific with the
  exponent as short as it goes (`1e-7`, `1e+21`). This is the layout of JSON numbers.
-/

namespace HostDispatch

namespace Decimal

/-- A finite non-negative binary64 value, `m * 2^q`. -/
structure Binary where
  m : Nat
  q : Int
  /-- The gap to the value below is half the gap to the value above. -/
  narrowBelow : Bool

/-- The magnitude of the value of some bits; NaN and the infinities are tested for first. -/
def Binary.ofBits (b : UInt64) : Binary :=
  let e := ((b >>> 52) &&& 0x7FF).toNat
  let f := (b &&& 0xFFFFFFFFFFFFF).toNat
  if e == 0 then ⟨f, -1074, false⟩ else ⟨Nat.pow 2 52 + f, (e : Int) - 1075, f == 0 && e > 1⟩

/-- A decimal `digits * 10^exp`. -/
structure Dec where
  digits : Nat
  exp : Int
deriving Repr, DecidableEq, Inhabited

/-- Compare `a * 10^i` with `n * 2^j` exactly. -/
def cmpScaled (a : Nat) (i : Int) (n : Nat) (j : Int) : Ordering :=
  compare (a * Nat.pow 10 i.toNat * Nat.pow 2 (-j).toNat)
    (n * Nat.pow 2 j.toNat * Nat.pow 10 (-i).toNat)

/-- Whether a decimal lies among the reals that round to the value. -/
def Binary.readsBack (x : Binary) (d : Dec) : Bool :=
  let lo := if x.narrowBelow then 4 * x.m - 1 else 4 * x.m - 2
  let hi := 4 * x.m + 2
  let incl := x.m % 2 == 0
  let cl := cmpScaled d.digits d.exp lo (x.q - 2)
  let ch := cmpScaled d.digits d.exp hi (x.q - 2)
  (cl == .gt || (incl && cl == .eq)) && (ch == .lt || (incl && ch == .eq))

/-- `⌊m * 2^q / 10^e⌋`. -/
def floorOnGrid (x : Binary) (e : Int) : Nat :=
  (x.m * Nat.pow 2 x.q.toNat * Nat.pow 10 (-e).toNat) /
    (Nat.pow 2 (-x.q).toNat * Nat.pow 10 e.toNat)

/-- The least `k` with `m * 2^q < 10^k`, for a non-zero value: an estimate from the binary length,
corrected by exact comparison. -/
def scale (x : Binary) : Int :=
  let est : Int := ((Nat.log2 x.m : Int) + x.q) * 30103 / 100000
  let below (k : Int) : Bool := cmpScaled 1 k x.m x.q == .gt
  let up := (List.range 8).foldl (fun k _ => if below k then k else k + 1) (est - 2)
  (List.range 8).foldl (fun k _ => if below (k - 1) then k - 1 else k) up

/-- Twice the distance comparison: is `c * 10^e` closer to the value than `(c+1) * 10^e`? Answers
`lt` when the lower candidate is closer, `gt` when the upper one is, `eq` on a tie. -/
def compareCandidates (x : Binary) (c : Nat) (e : Int) : Ordering :=
  -- the lower is closer iff 2x < (2c + 1) * 10^e
  cmpScaled (2 * c + 1) e (2 * x.m) x.q |>.swap

/-- The candidates of one grid `10^e` that read back, choosing the closer of two and the even one
on a tie. -/
def onGrid (x : Binary) (e : Int) : Option Dec :=
  let c := floorOnGrid x e
  let lo : Dec := ⟨c, e⟩
  let hi : Dec := ⟨c + 1, e⟩
  match x.readsBack lo, x.readsBack hi with
  | true, true =>
    match compareCandidates x c e with
    | .lt => some lo
    | .gt => some hi
    | .eq => if c % 2 == 0 then some lo else some hi
  | true, false => some lo
  | false, true => some hi
  | false, false => none

/-- Trailing zeros of the digits moved into the exponent. -/
def strip (d : Dec) : Dec :=
  (List.range 40).foldl (fun d _ => if d.digits ≠ 0 && d.digits % 10 == 0 then ⟨d.digits / 10, d.exp + 1⟩ else d) d

/-- The exact decimal value of `m * 2^q`. -/
def exact (x : Binary) : Dec :=
  if x.q ≥ 0 then ⟨x.m * Nat.pow 2 x.q.toNat, 0⟩ else ⟨x.m * Nat.pow 5 (-x.q).toNat, x.q⟩

/-- The shortest decimal of a finite non-zero magnitude. -/
def shortest (x : Binary) : Dec :=
  let k := scale x
  match (List.range 17).findSome? (fun n => onGrid x (k - (n + 1 : Nat))) with
  | some d => strip d
  | none => strip (exact x)

/-- The decimal digits of a number, as characters. -/
def digitChars (n : Nat) : List Char := (toString n).toList

/-- Scientific layout of digits `ds` with leading-digit exponent `p`: `d.ddd` then the exponent. -/
def scientific (ds : List Char) (p : Int) (expText : Int → String) : String :=
  let mant := match ds with
    | [] => "0"
    | [d] => d.toString
    | d :: rest => d.toString ++ "." ++ String.ofList rest
  mant ++ "e" ++ expText p

/-- Positional layout of digits `ds` whose leading digit has exponent `p`. -/
def positional (ds : List Char) (p : Int) : String :=
  let n := ds.length
  if p < 0 then "0." ++ String.ofList (List.replicate ((-p).toNat - 1) '0') ++ String.ofList ds
  else if p.toNat + 1 ≥ n then String.ofList ds ++ String.ofList (List.replicate (p.toNat + 1 - n) '0')
  else String.ofList (ds.take (p.toNat + 1)) ++ "." ++ String.ofList (ds.drop (p.toNat + 1))

/-- An exponent with sign and at least two digits. -/
def expTwoDigits (p : Int) : String :=
  let a := toString p.natAbs
  (if p < 0 then "-" else "+") ++ (if a.length < 2 then "0" ++ a else a)

/-- An exponent with sign and as few digits as it takes. -/
def expShort (p : Int) : String := (if p < 0 then "-" else "+") ++ toString p.natAbs

/-- Which layout a format takes for a value. -/
inductive Layout where
  | general
  | script

/-- Text of a float in a layout; NaN and infinities as `NaN`, `+Inf`, `-Inf`. -/
def render (layout : Layout) (v : Float) : String :=
  let b := v.toBits
  let neg := (b >>> 63) == 1
  let sign := if neg then "-" else ""
  let e := ((b >>> 52) &&& 0x7FF).toNat
  let f := (b &&& 0xFFFFFFFFFFFFF).toNat
  if e == 0x7FF then (if f ≠ 0 then "NaN" else if neg then "-Inf" else "+Inf")
  else if e == 0 && f == 0 then sign ++ "0"
  else
    let d := shortest (Binary.ofBits b)
    let ds := digitChars d.digits
    let p : Int := d.exp + ds.length - 1
    match layout with
    | .general =>
      if p < -4 || p ≥ 21 then sign ++ scientific ds p expTwoDigits
      else sign ++ positional ds p
    | .script =>
      if p < -6 || p ≥ 21 then sign ++ scientific ds p expShort
      else sign ++ positional ds p

/-- The text a `%g`-style shortest formatter gives: scientific from exponent 21 up or below -4. -/
def general (v : Float) : String := render .general v

/-- The text of a JSON number: scientific from 1e21 up or below 1e-6. -/
def script (v : Float) : String := render .script v

/-- The text of the shortest `%g` rule with its switch at exponent 6 (`1e+06`). -/
def compact (v : Float) : String :=
  let b := v.toBits
  let e := ((b >>> 52) &&& 0x7FF).toNat
  let f := (b &&& 0xFFFFFFFFFFFFF).toNat
  if e == 0x7FF || (e == 0 && f == 0) then render .general v
  else
    let sign := if (b >>> 63) == 1 then "-" else ""
    let d := shortest (Binary.ofBits b)
    let ds := digitChars d.digits
    let p : Int := d.exp + ds.length - 1
    if p < -4 || p ≥ 6 then sign ++ scientific ds p expTwoDigits else sign ++ positional ds p


/-- Digits as a number. -/
def digitsValue (ds : List Char) : Nat := ds.foldl (fun n c => n * 10 + (c.toNat - 48)) 0

/-- The double nearest to a decimal literal `[-]digits[.digits][(e|E)[+-]digits]`, read exactly
and rounded once; `none` when the text is not such a literal. -/
def ofText? (s : String) : Option Float :=
  let cs := s.toList
  let (neg, cs) := match cs with
    | '-' :: rest => (true, rest)
    | _ => (false, cs)
  let whole := cs.takeWhile Char.isDigit
  let cs := cs.dropWhile Char.isDigit
  let (frac, cs) := match cs with
    | '.' :: rest => (rest.takeWhile Char.isDigit, rest.dropWhile Char.isDigit)
    | _ => ([], cs)
  let expPart : Option Int := match cs with
    | [] => some 0
    | e :: rest =>
      if e = 'e' || e = 'E' then
        let (eneg, ds) := match rest with
          | '-' :: r => (true, r)
          | '+' :: r => (false, r)
          | r => (false, r)
        if ds.isEmpty || !ds.all Char.isDigit then none
        else some (if eneg then -(digitsValue ds : Int) else (digitsValue ds : Int))
      else none
  if whole.isEmpty then none
  else
    match expPart with
    | none => none
    | some e =>
      let m := digitsValue (whole ++ frac)
      let e10 := e - frac.length
      let mag : Float := if e10 < 0 then OfScientific.ofScientific m true e10.natAbs
        else OfScientific.ofScientific m false e10.toNat
      some (if neg then -mag else mag)

end Decimal

end HostDispatch
