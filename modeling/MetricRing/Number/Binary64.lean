/-!
# Decimal text of binary64 floats

A finite binary64 word is `m * 2 ^ e`: the significand is the fraction field, plus `2 ^ 52` for
normal numbers, and the exponent is the biased exponent minus 1075 (or -1074 for subnormals).
Everything here works on that exact reading with natural-number arithmetic.

* `ofRatio` is the binary64 number nearest to a ratio of naturals, ties to an even significand,
  and infinity past the largest finite number: the correctly rounded reading of a decimal.
* `shortest` finds the fewest decimal digits that read back as the same float, trying each
  precision from one digit up and rounding the exact value to it.
* `displayText` writes those digits as plain decimal notation, never with an exponent (`1`,
  `0.001`, `1000000000000000000000`); `compactText` writes them the compact way (`1.0`,
  `0.001`, `1e21`, `1.5e-7`): plain up to sixteen integer digits or four leading fraction
  zeros, exponent notation past that.
-/

namespace MetricRing.Binary64

/-- `2 ^ 52`, the weight of a normal number's hidden bit. -/
def hidden : Nat := Nat.pow 2 52

/-- The fraction field of a word. -/
def fractionBits (w : UInt64) : Nat := w.toNat % hidden

/-- The biased exponent field of a word. -/
def exponentBits (w : UInt64) : Nat := (w.toNat / hidden) % 2048

/-- The sign bit of a word. -/
def signBit (w : UInt64) : Bool := Nat.pow 2 63 ≤ w.toNat

/-- A finite float's magnitude as `m * 2 ^ e`; `none` for infinities and NaN. -/
def parts (f : Float) : Option (Nat × Int) :=
  let w := f.toBits
  let be := exponentBits w
  if be == 2047 then none
  else if be == 0 then some (fractionBits w, -1074)
  else some (hidden + fractionBits w, (be : Int) - 1075)

/-- The float is negative or negative zero. -/
def isNegative (f : Float) : Bool := signBit f.toBits

/-- `a / b` rounded to the nearest natural, ties to even. -/
def divRound (a b : Nat) : Nat :=
  let q := a / b
  let r := a % b
  if 2 * r > b then q + 1
  else if 2 * r == b then q + q % 2
  else q

/-- `num * 2 ^ k` and `den`, with the power moved to whichever side keeps both natural. -/
def scaleTwo (num den : Nat) (k : Int) : Nat × Nat :=
  if 0 ≤ k then (num * Nat.pow 2 k.toNat, den) else (num, den * Nat.pow 2 k.natAbs)

/-- The exponent `k` with `2 ^ k ≤ num / den < 2 ^ (k + 1)`, for positive `num` and `den`. -/
def binaryExponent (num den : Nat) : Int :=
  let k : Int := (Nat.log2 num : Int) - Nat.log2 den
  let (a, b) := scaleTwo den 1 k
  if num * b < a then k - 1 else k

/-- The word of the binary64 number nearest to `num / den`, ties to even, with the sign bit of
`neg`; overflow gives infinity. -/
def ratioBits (neg : Bool) (num den : Nat) : Nat :=
  let sign := if neg then Nat.pow 2 63 else 0
  if num == 0 || den == 0 then sign
  else
    let k := binaryExponent num den
    let e := max k (-1022) - 52
    let (a, b) := scaleTwo num den (-e)
    let m := divRound a b
    let (m, e) := if m == Nat.pow 2 53 then (Nat.pow 2 52, e + 1) else (m, e)
    if e + 52 > 1023 then sign + 2047 * hidden
    else if m < hidden then sign + m
    else sign + (e + 1075).toNat * hidden + (m - hidden)

/-- The binary64 number nearest to `num / den`, ties to even, negated when `neg`. -/
def ofRatio (neg : Bool) (num den : Nat) : Float :=
  Float.ofBits (ratioBits neg num den).toUInt64

/-- The decimal exponent `d` with `10 ^ d ≤ num / den < 10 ^ (d + 1)`, for positive values,
searched from an estimate by the binary exponent. -/
def decimalExponent (num den : Nat) : Int :=
  let below (d : Int) : Bool :=
    if 0 ≤ d then num < den * Nat.pow 10 d.toNat else num * Nat.pow 10 d.natAbs < den
  let start : Int := (binaryExponent num den * 30103) / 100000
  let rec down : Nat → Int → Int
    | 0, d => d
    | fuel + 1, d => if below d then down fuel (d - 1) else d
  let rec up : Nat → Int → Int
    | 0, d => d
    | fuel + 1, d => if below (d + 1) then d else up fuel (d + 1)
  up 4 (down 4 start)

/-- `num / den` rounded to `p` significant digits: the digits as a natural below `10 ^ p` and
the decimal exponent of the first digit. -/
def roundTo (num den : Nat) (p : Nat) : Nat × Int :=
  let d := decimalExponent num den
  let shift : Int := (p : Int) - 1 - d
  let digits := if 0 ≤ shift then divRound (num * Nat.pow 10 shift.toNat) den
    else divRound num (den * Nat.pow 10 shift.natAbs)
  if digits == Nat.pow 10 p then (Nat.pow 10 (p - 1), d + 1) else (digits, d)

/-- The value `digits * 10 ^ (d - p + 1)` as a ratio of naturals. -/
def decimalRatio (digits : Nat) (d : Int) (p : Nat) : Nat × Nat :=
  let k : Int := d - p + 1
  if 0 ≤ k then (digits * Nat.pow 10 k.toNat, 1) else (digits, Nat.pow 10 k.natAbs)

/-- Drops trailing zero characters. -/
def trimZeros (s : List Char) : List Char := (s.reverse.dropWhile (· == '0')).reverse

/-- The shortest decimal digits that read back as the float `m * 2 ^ e`, with the exponent of
the first digit; seventeen digits always suffice. -/
def shortest (m : Nat) (e : Int) : List Char × Int :=
  let (num, den) := scaleTwo m 1 e
  let target := ratioBits false num den
  let rec search : Nat → Nat → List Char × Int
    | 0, _ =>
      let (digits, d) := roundTo num den 17
      (trimZeros (Nat.toDigits 10 digits), d)
    | fuel + 1, p =>
      let (digits, d) := roundTo num den p
      let (a, b) := decimalRatio digits d p
      if ratioBits false a b == target then (trimZeros (Nat.toDigits 10 digits), d)
      else search fuel (p + 1)
  search 16 1

/-- `n` zero characters. -/
def zerosText (n : Nat) : String := String.ofList (List.replicate n '0')

/-- Plain decimal notation of digits `ds` whose first digit has exponent `d`. -/
def plainText (ds : List Char) (d : Int) : String :=
  if d < 0 then "0." ++ zerosText (d.natAbs - 1) ++ String.ofList ds
  else
    let whole := d.toNat + 1
    if ds.length ≤ whole then String.ofList ds ++ zerosText (whole - ds.length)
    else String.ofList (ds.take whole) ++ "." ++ String.ofList (ds.drop whole)

/-- A float in plain decimal notation with the fewest digits that read back as it: `NaN`,
`inf`, `-inf`, `0` and `-0` for the special values. -/
def displayText (f : Float) : String :=
  let sign := if isNegative f then "-" else ""
  match parts f with
  | none => if f.isNaN then "NaN" else sign ++ "inf"
  | some (m, e) =>
    if m == 0 then sign ++ "0"
    else
      let (ds, d) := shortest m e
      sign ++ plainText ds d

/-- The exponent part of the compact notation: `e`, a minus sign when negative, the digits. -/
def exponentText (k : Int) : String := "e" ++ toString k

/-- A float in the compact notation with the fewest digits that read back as it. -/
def compactText (f : Float) : String :=
  let sign := if isNegative f then "-" else ""
  match parts f with
  | none => if f.isNaN then "NaN" else sign ++ "inf"
  | some (m, e) =>
    if m == 0 then sign ++ "0.0"
    else
      let (ds, d) := shortest m e
      let length : Int := ds.length
      let kk := d + 1
      let k := kk - length
      let body :=
        if 0 ≤ k && kk ≤ 16 then String.ofList ds ++ zerosText k.toNat ++ ".0"
        else if 0 < kk && kk ≤ 16 then
          String.ofList (ds.take kk.toNat) ++ "." ++ String.ofList (ds.drop kk.toNat)
        else if -5 < kk && kk ≤ 0 then "0." ++ zerosText kk.natAbs ++ String.ofList ds
        else if ds.length == 1 then String.ofList ds ++ exponentText (kk - 1)
        else String.ofList (ds.take 1) ++ "." ++ String.ofList (ds.drop 1) ++ exponentText (kk - 1)
      sign ++ body

/-- The binary64 number nearest to `digits * 10 ^ exp10`, negated when `neg`: infinity far
above the largest float and zero far below the smallest, without computing huge powers. -/
def ofDecimal (neg : Bool) (digits : Nat) (exp10 : Int) : Float :=
  let size : Int := (Nat.toDigits 10 digits).length
  if digits == 0 || size + exp10 < -400 then ofRatio neg 0 1
  else if size + exp10 > 400 then Float.ofBits ((if neg then Nat.pow 2 63 else 0) + 2047 * hidden).toUInt64
  else if 0 ≤ exp10 then ofRatio neg (digits * Nat.pow 10 exp10.toNat) 1
  else ofRatio neg digits (Nat.pow 10 exp10.natAbs)

end MetricRing.Binary64
