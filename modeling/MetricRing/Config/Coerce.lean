import MetricRing.Config.Error
import MetricRing.Number.Binary64
/-!
# Reading configuration values as numbers and booleans

An integer setting accepts an integer; a boolean (1 or 0); a float, rounded half away from
zero and clamped to the 64-bit range (NaN reads as 0); or a string, which is `true`, `on` or
`yes` (1), `false`, `off` or `no` (0) in any case, or else a decimal integer with an optional
sign. A boolean setting accepts a boolean; a number, true when non-zero; or a string `1`,
`true`, `on`, `yes`, `0`, `false`, `off` or `no` in any case. Anything else is a type error
naming what was found, where a refused string is shown as given for integers and lowercased
for booleans.

Unsigned settings take the integer's bits: `toUnsigned 16` wraps modulo `2 ^ 16`, so `-1`
is 65535 and 70000 is 4464.

* `parseInt64_ofDigits` says a plain run of digits within range reads as its value.
-/

namespace MetricRing.Config

/-- The least 64-bit signed integer. -/
def int64Min : Int := -9223372036854775808

/-- The greatest 64-bit signed integer. -/
def int64Max : Int := 9223372036854775807

/-- The value of a non-empty run of decimal digits. -/
def digitsValue (ds : List Char) : Nat :=
  ds.foldl (fun acc c => acc * 10 + (c.toNat - '0'.toNat)) 0

/-- Reads a decimal 64-bit integer: an optional `+` or `-` and at least one digit, nothing
else, within range. -/
def parseInt64 (s : String) : Option Int :=
  let (neg, ds) := match s.toList with
    | '+' :: rest => (false, rest)
    | '-' :: rest => (true, rest)
    | cs => (false, cs)
  if ds.isEmpty || !ds.all Char.isDigit then none
  else
    let v : Int := if neg then -(digitsValue ds : Int) else digitsValue ds
    if v < int64Min || int64Max < v then none else some v

theorem parseInt64_ofDigits (ds : List Char) (h : ds ≠ []) (hd : ds.all Char.isDigit = true)
    (hh : ds.head? ≠ some '+' ∧ ds.head? ≠ some '-') (hr : digitsValue ds ≤ 9223372036854775807) :
    parseInt64 (String.ofList ds) = some (digitsValue ds) := by
  unfold parseInt64
  obtain ⟨hp, hm⟩ := hh
  match ds, h, hp, hm with
  | c :: rest, _, hp, hm =>
    simp only [String.toList_ofList]
    have hc1 : c ≠ '+' := fun e => hp (by simp [e])
    have hc2 : c ≠ '-' := fun e => hm (by simp [e])
    split
    · rename_i hx; simp at hx; exact absurd hx.1 hc1
    · rename_i hx; simp at hx; exact absurd hx.1 hc2
    · simp only [List.isEmpty_cons, hd, Bool.not_true, Bool.or_false, Bool.false_eq_true,
        ↓reduceIte]
      have h1 : ¬ ((digitsValue (c :: rest) : Int) < int64Min) := by
        unfold int64Min; omega
      have h2 : ¬ (int64Max < (digitsValue (c :: rest) : Int)) := by
        unfold int64Max; omega
      simp [h1, h2]

/-- A float rounded half away from zero and converted to a 64-bit integer, saturating at the
ends of the range, NaN giving 0. -/
def roundToInt64 (f : Float) : Int :=
  if f.isNaN then 0
  else
    match Binary64.parts f.round with
    | none => if Binary64.isNegative f then int64Min else int64Max
    | some (m, e) =>
      let mag : Int := if 0 ≤ e then (m * Nat.pow 2 e.toNat : Nat) else (m / Nat.pow 2 e.natAbs : Nat)
      let v := if Binary64.isNegative f then -mag else mag
      max int64Min (min int64Max v)

/-- What a value is, for a type error. -/
def Value.unexpected : Value → Unexpected
  | .leaf _ .nil => .unit
  | .leaf _ (.bool b) => .bool b
  | .leaf _ (.int i) => .int i
  | .leaf _ (.float f) => .float (Binary64.displayText f)
  | .leaf _ (.str s) => .str s
  | .array _ _ => .seq
  | .table _ _ => .map

/-- Reads a value as a 64-bit integer. -/
def Value.toInt (v : Value) : Except ConfigError Int :=
  let refuse (found : Unexpected) : Except ConfigError Int :=
    .error (.invalidType v.origin found "an integer" none)
  match v with
  | .leaf _ (.int i) => .ok i
  | .leaf _ (.bool b) => .ok (if b then 1 else 0)
  | .leaf _ (.float f) => .ok (roundToInt64 f)
  | .leaf _ (.str s) =>
    let l := Text.lowercase s
    if l == "true" || l == "on" || l == "yes" then .ok 1
    else if l == "false" || l == "off" || l == "no" then .ok 0
    else match parseInt64 s with
      | some i => .ok i
      | none => refuse (.str s)
  | other => refuse other.unexpected

/-- Reads a value as a boolean. -/
def Value.toBool (v : Value) : Except ConfigError Bool :=
  let refuse (found : Unexpected) : Except ConfigError Bool :=
    .error (.invalidType v.origin found "a boolean" none)
  match v with
  | .leaf _ (.bool b) => .ok b
  | .leaf _ (.int i) => .ok (i != 0)
  | .leaf _ (.float f) => .ok (f != 0.0)
  | .leaf _ (.str s) =>
    let l := Text.lowercase s
    if l == "1" || l == "true" || l == "on" || l == "yes" then .ok true
    else if l == "0" || l == "false" || l == "off" || l == "no" then .ok false
    else refuse (.str l)
  | other => refuse other.unexpected

/-- The low `bits` bits of an integer, read as an unsigned number. -/
def toUnsigned (bits : Nat) (i : Int) : Nat := (i % (Nat.pow 2 bits : Nat)).toNat

theorem toUnsigned_lt (bits : Nat) (i : Int) : toUnsigned bits i < Nat.pow 2 bits := by
  unfold toUnsigned
  have hp : (0 : Int) < (Nat.pow 2 bits : Nat) := by
    have : 0 < Nat.pow 2 bits := Nat.two_pow_pos bits
    omega
  have h1 := Int.emod_nonneg i (Int.ne_of_gt hp)
  have h2 := Int.emod_lt_of_pos i hp
  omega

end MetricRing.Config
