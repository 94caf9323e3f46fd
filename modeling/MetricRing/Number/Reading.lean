import MetricRing.Number.Binary64
/-!
# Reading numbers from text

The number grammars of a strict number reader, used to resolve untyped YAML scalars:

* `readRadixInt64 r s`: an optional `+` or `-` (not alone), then at least one digit of radix
  `r` (letters in either case), nothing else, within the signed 64-bit range.
* `readFloat s`: an optional sign, then `inf`, `infinity` or `nan` in any case, or decimal
  digits with an optional point (at least one digit on either side of it) and an optional
  exponent `e`/`E` with its own optional sign and at least one digit. The value is the
  correctly rounded binary64 number, infinite past the largest one.

* `readRadixInt64_range`: every value read lies in the signed 64-bit range, and
  `readRadixInt64_digits`: digits without a sign read as their value when it fits.
-/

namespace MetricRing.Number

/-- The value of a digit in radixes up to 36, 36 for anything else. -/
def digitValue (c : Char) : Nat :=
  if '0' ≤ c && c ≤ '9' then c.toNat - 48
  else if 'a' ≤ c && c ≤ 'z' then c.toNat - 87
  else if 'A' ≤ c && c ≤ 'Z' then c.toNat - 55
  else 36

/-- The value of a run of digits of a radix, if every character is one. -/
def radixDigits (radix : Nat) (cs : List Char) : Option Nat :=
  cs.foldlM (fun acc c => if digitValue c < radix then some (acc * radix + digitValue c) else none) 0

/-- Reads a signed 64-bit integer in a radix. -/
def readRadixInt64 (radix : Nat) (s : String) : Option Int :=
  let (neg, ds) := match s.toList with
    | '+' :: rest => (false, rest)
    | '-' :: rest => (true, rest)
    | cs => (false, cs)
  if ds.isEmpty then none
  else
    (radixDigits radix ds).bind fun n =>
      let v : Int := if neg then -(n : Int) else n
      if v < -9223372036854775808 || 9223372036854775807 < v then none else some v

/-- A value read as a signed 64-bit integer lies in that range. -/
theorem readRadixInt64_range {radix : Nat} {s : String} {v : Int}
    (h : readRadixInt64 radix s = some v) :
    -9223372036854775808 ≤ v ∧ v ≤ 9223372036854775807 := by
  simp only [readRadixInt64] at h
  -- whatever the sign, the value is refused outside the range
  split at h <;>
  · split at h
    · cases h
    · obtain ⟨n, -, hv⟩ := Option.bind_eq_some_iff.1 h
      dsimp only at hv
      obtain ⟨hout, hsome⟩ := Option.ite_none_left_eq_some.1 hv
      cases Option.some.inj hsome
      simpa only [Bool.or_eq_true, decide_eq_true_eq, not_or, Int.not_lt] using hout

/-- A run of digits of the radix, without sign, reads as its value when that value fits. -/
theorem readRadixInt64_digits {radix : Nat} {cs : List Char} {n : Nat} (hne : cs ≠ [])
    (hsign : cs.head? ≠ some '+' ∧ cs.head? ≠ some '-') (hn : radixDigits radix cs = some n)
    (hr : n ≤ 9223372036854775807) :
    readRadixInt64 radix (String.ofList cs) = some (n : Int) := by
  obtain ⟨c, rest, rfl⟩ := List.exists_cons_of_ne_nil hne
  have hp : c ≠ '+' := fun e => hsign.1 (by simp [e])
  have hm : c ≠ '-' := fun e => hsign.2 (by simp [e])
  simp only [readRadixInt64, String.toList_ofList]
  split
  · rename_i h
    simp only [List.cons.injEq] at h
    exact absurd h.1 hp
  · rename_i h
    simp only [List.cons.injEq] at h
    exact absurd h.1 hm
  · -- an unsigned value that fits is kept
    have hfit : (decide ((n : Int) < -9223372036854775808) ||
        decide ((9223372036854775807 : Int) < n)) = false := by
      simp only [Bool.or_eq_false_iff, decide_eq_false_iff_not]
      omega
    rw [if_neg (by simp), hn, Option.bind_some]
    simp only [Bool.false_eq_true, if_false, hfit]

example : readRadixInt64 10 "7" = some 7 := by decide

/-- The value of a run of decimal digits. -/
def decimalDigits (cs : List Char) : Nat :=
  cs.foldl (fun acc c => acc * 10 + (c.toNat - 48)) 0

/-- Reads a float. -/
def readFloat (s : String) : Option Float :=
  let (neg, body) := match s.toList with
    | '-' :: rest => (true, rest)
    | '+' :: rest => (false, rest)
    | cs => (false, cs)
  let lower := String.ofList (body.map Char.toLower)
  if lower == "inf" || lower == "infinity" then some (if neg then -1.0 / 0.0 else 1.0 / 0.0)
  else if lower == "nan" then some (0.0 / 0.0)
  else
    let intPart := body.takeWhile Char.isDigit
    let rest := body.drop intPart.length
    let (frac, rest) := match rest with
      | '.' :: r => (r.takeWhile Char.isDigit, r.drop (r.takeWhile Char.isDigit).length)
      | r => ([], r)
    if intPart.isEmpty && frac.isEmpty then none
    else
      let expo : Option Int := match rest with
        | [] => some 0
        | e :: r =>
          if e == 'e' || e == 'E' then
            let (eneg, eds) := match r with
              | '-' :: t => (true, t)
              | '+' :: t => (false, t)
              | t => (false, t)
            if eds.isEmpty || !eds.all Char.isDigit then none
            else
              let v : Int := decimalDigits eds
              some (if eneg then -v else v)
          else none
      expo.map fun x => Binary64.ofDecimal neg (decimalDigits (intPart ++ frac)) (x - frac.length)

end MetricRing.Number
