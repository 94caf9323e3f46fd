/-!
# Suggesting what was meant

A mistyped subcommand or switch is answered with the closest known name, when one is close
enough: the candidate of highest Jaro-Winkler similarity above `0.8`, the first one on a tie.

The Jaro similarity of `a` and `b` counts the characters of `a` that match an unused character
of `b` at most `max |a| |b| / 2 - 1` places away (the first such, left to right), and the
matches found out of order (a match left of the previous one): with `m` matches and `t` out of
order, it is `(m / |a| + m / |b| + (m - t) / m) / 3`, and 0 without matches. Equal strings have
similarity 1; two single characters that differ, or an empty string, have 0. The Winkler
variant raises it by a tenth of the remaining distance per character of common prefix,
capped at 1.
-/

namespace MetricRing.Cli

/-- Finds the first unused position of `c` in `b` between `lo` and `hi`, marking it used. -/
def claim (c : Char) (lo hi : Nat) : List (Char × Bool) → Nat → Option (Nat × List (Char × Bool))
  | [], _ => none
  | (d, used) :: rest, j =>
    if j > hi then none
    else if lo ≤ j && c == d && !used then some (j, (d, true) :: rest)
    else (claim c lo hi rest (j + 1)).map fun (k, rest') => (k, (d, used) :: rest')

/-- The matches and out-of-order matches of `a` against `b` within a search range. -/
def matchCounts (range : Nat) (b : List (Char × Bool)) (bLen : Nat) :
    List Char → Nat → Nat → Nat → Nat → Nat × Nat
  | [], _, _, m, t => (m, t)
  | c :: rest, i, last, m, t =>
    let lo := i - range
    let hi := min (bLen - 1) (i + range)
    match claim c lo hi b 0 with
    | some (j, b') => matchCounts range b' bLen rest (i + 1) j (m + 1) (if j < last then t + 1 else t)
    | none => matchCounts range b bLen rest (i + 1) last m t

/-- The Jaro similarity of two strings. -/
def jaro (a b : String) : Float :=
  if a == b then 1.0
  else
    let la := a.length
    let lb := b.length
    if la == 0 || lb == 0 || (la == 1 && lb == 1) then 0.0
    else
      let range := max la lb / 2 - 1
      let (m, t) := matchCounts range (b.toList.map fun c => (c, false)) lb a.toList 0 0 0 0
      if m == 0 then 0.0
      else
        let mf := m.toFloat
        (1.0 / 3.0) * ((mf / la.toFloat) + (mf / lb.toFloat) + ((mf - t.toFloat) / mf))

/-- The length of the common prefix of two character lists. -/
def commonPrefix : List Char → List Char → Nat
  | x :: xs, y :: ys => if x == y then commonPrefix xs ys + 1 else 0
  | _, _ => 0

/-- The Jaro-Winkler similarity of two strings. -/
def jaroWinkler (a b : String) : Float :=
  let j := jaro a b
  let w := j + (0.1 * (commonPrefix a.toList b.toList).toFloat * (1.0 - j))
  if w ≤ 1.0 then w else 1.0

/-- The candidate most similar to `v`, if any is similar enough; the first on a tie. -/
def suggest (v : String) (candidates : List String) : Option String :=
  let best := candidates.foldl (fun (acc : Option (Float × String)) c =>
    let score := jaroWinkler v c
    if score > 0.8 then
      match acc with
      | some (s, _) => if s < score then some (score, c) else acc
      | none => some (score, c)
    else acc) none
  best.map (·.2)

end MetricRing.Cli
