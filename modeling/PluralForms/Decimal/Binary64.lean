/-!
# Binary64 values and their shortest decimal text

A finite IEEE 754 double is `(-1)^s · m · 2^e` with `m < 2^53` and `e ≥ -1074`. This module
rounds exact rationals to the nearest double (ties to an even significand), multiplies and
divides doubles with one rounding, and finds the shortest decimal that reads back as a given
double: for 1, 2, … 17 significant digits it tries the two grid points next to the value, takes
the first digit count with a grid point inside the rounding interval, and of two such points the
nearer (a tie goes to the even one). Everything is exact `Nat` arithmetic.

The decimal is written positionally when its decimal exponent is small (from `0.0001` up to
sixteen integer digits, with `.0` after a whole number) and as `d.ddde+x` or `d.ddde-x`
otherwise, with the sign of the exponent always written.
-/

namespace PluralForms

namespace Decimal

/-- A double: zero, a finite nonzero value `m · 2^e` with its sign, or an infinity. -/
inductive Binary64 where
  | zero (neg : Bool)
  | finite (neg : Bool) (m : Nat) (e : Int)
  | infinite (neg : Bool)
  deriving DecidableEq, Repr

def minExp : Int := -1074

def maxExp : Int := 971

/-- `2 ^ k` for an integer `k`, as the fraction `(num, den)`. -/
def pow2Frac (k : Int) : Nat × Nat :=
  if 0 ≤ k then (Nat.pow 2 k.toNat, 1) else (1, Nat.pow 2 (-k).toNat)

/-- `num / den` rounded to the nearest integer, ties to even. -/
def roundHalfEven (num den : Nat) : Nat :=
  let q := num / den
  let r := num % den
  if 2 * r < den then q
  else if 2 * r > den then q + 1
  else if q % 2 = 0 then q else q + 1

/-- The exponent `e` with `2^52 ≤ num / den / 2^e < 2^53`, for `num, den > 0`: the difference of
the binary logarithms, corrected by one step either way. -/
def normalExp (num den : Nat) : Int :=
  let guess : Int := (Nat.log2 num : Int) - (Nat.log2 den : Int) - 52
  let fits (e : Int) : Bool :=
    let (pn, pd) := pow2Frac e
    decide (Nat.pow 2 52 * pn * den ≤ num * pd) && decide (num * pd < Nat.pow 2 53 * pn * den)
  if fits guess then guess else if fits (guess - 1) then guess - 1 else guess + 1

/-- The double nearest to `num / den` with sign `neg`: the significand `num / den / 2^e` rounded
half to even, where a significand rounded up to `2^53` moves to the next exponent. -/
def ofFrac (neg : Bool) (num den : Nat) : Binary64 :=
  if num = 0 ∨ den = 0 then .zero neg
  else
    let e0 := max (normalExp num den) minExp
    let (pn, pd) := pow2Frac e0
    let m0 := roundHalfEven (num * pd) (den * pn)
    let (m, e) := if m0 = Nat.pow 2 53 then (Nat.pow 2 52, e0 + 1) else (m0, e0)
    if m = 0 then .zero neg
    else if e > maxExp then .infinite neg
    else .finite neg m e

def ofNat (n : Nat) : Binary64 := ofFrac false n 1

/-- The value of a finite double as a fraction of naturals, without its sign. -/
def Binary64.frac : Binary64 → Nat × Nat
  | .finite _ m e => let (pn, pd) := pow2Frac e; (m * pn, pd)
  | _ => (0, 1)

def Binary64.neg : Binary64 → Bool
  | .zero s | .finite s _ _ | .infinite s => s

def Binary64.isInfinite : Binary64 → Bool
  | .infinite _ => true
  | _ => false

def Binary64.isZero : Binary64 → Bool
  | .zero _ => true
  | _ => false

def Binary64.negate : Binary64 → Binary64
  | .zero s => .zero !s
  | .finite s m e => .finite (!s) m e
  | .infinite s => .infinite !s

def Binary64.mul (a b : Binary64) : Binary64 :=
  let s := a.neg != b.neg
  match a, b with
  | .infinite _, _ | _, .infinite _ => .infinite s
  | .zero _, _ | _, .zero _ => .zero s
  | _, _ =>
    let (an, ad) := a.frac
    let (bn, bd) := b.frac
    ofFrac s (an * bn) (ad * bd)

/-- The quotient of two doubles, rounded once; the divisor is finite and nonzero. -/
def Binary64.div (a b : Binary64) : Binary64 :=
  let s := a.neg != b.neg
  match a, b with
  | .infinite _, _ => .infinite s
  | .zero _, _ => .zero s
  | _, .zero _ => .infinite s
  | _, .infinite _ => .zero s
  | _, _ =>
    let (an, ad) := a.frac
    let (bn, bd) := b.frac
    ofFrac s (an * bd) (ad * bn)

def digitCount (n : Nat) : Nat :=
  (toString n).length

def pow10Frac (k : Int) : Nat × Nat :=
  if 0 ≤ k then (Nat.pow 10 k.toNat, 1) else (1, Nat.pow 10 (-k).toNat)

/-- The exponent `E` with `10^E ≤ num / den < 10^(E+1)`, for `num, den > 0`. -/
def decimalExp (num den : Nat) : Int :=
  let guess : Int := (digitCount num : Int) - (digitCount den : Int)
  let fits (k : Int) : Bool :=
    let (pn, pd) := pow10Frac k
    decide (pn * den ≤ num * pd) && decide (num * pd < 10 * pn * den)
  if fits guess then guess else if fits (guess - 1) then guess - 1 else guess + 1

/-- Shortest decimal digits `d` and exponent `k` with `d · 10^k` reading back as the positive
finite double `m · 2^e`, nearest to it among the shortest. The value `4m · 2^(e-2)` and the
midpoints to its neighbours are put over one denominator. For one digit, then two and so on up to
seventeen, which always suffice, the two candidates next to the value are tried: the nearer one
that reads back is taken, a tie going to the even one. Trailing zeros are dropped at the end. -/
def shortest (m : Nat) (e : Int) : Nat × Int :=
  let lowerGapHalved := m = Nat.pow 2 52 ∧ e > minExp
  let (pn, pd) := pow2Frac (e - 2)
  let den := pd
  let v := 4 * m * pn
  let lo := (if lowerGapHalved then 4 * m - 1 else 4 * m - 2) * pn
  let hi := (4 * m + 2) * pn
  let inclusive := m % 2 = 0
  let inside (x : Nat) (xd : Nat) : Bool :=
    if inclusive then decide (lo * xd ≤ x * den) && decide (x * den ≤ hi * xd)
    else decide (lo * xd < x * den) && decide (x * den < hi * xd)
  let big := decimalExp v den
  let rec search : Nat → Nat → Nat × Int
    | 0, _ => (m, e)
    | fuel + 1, n =>
      let k : Int := big - (n : Int) + 1
      let (qn, qd) := pow10Frac k
      let num := v * qd
      let dd := den * qn
      let dLo := num / dd
      let dHi := if num % dd = 0 then dLo else dLo + 1
      let okLo := inside (dLo * qn) qd && dLo ≠ 0
      let okHi := inside (dHi * qn) qd
      if okLo && okHi && dLo ≠ dHi then
        let dl := num - dLo * dd
        let dh := dHi * dd - num
        if dl < dh then (dLo, k) else if dh < dl then (dHi, k)
        else if dLo % 2 = 0 then (dLo, k) else (dHi, k)
      else if okLo then (dLo, k)
      else if okHi then (dHi, k)
      else search fuel (n + 1)
  let (d, k) := search 17 1
  let rec strip : Nat → Nat → Int → Nat × Int
    | 0, d, k => (d, k)
    | fuel + 1, d, k => if d ≠ 0 ∧ d % 10 = 0 then strip fuel (d / 10) (k + 1) else (d, k)
  strip 20 d k

/-- The decimal text of a double: positional for decimal exponents from -5 up to 15, `.0` after
a whole number, and scientific (`1e+30`, `1.5e-7`) otherwise. -/
def Binary64.text : Binary64 → String
  | .zero neg => (if neg then "-" else "") ++ "0.0"
  | .infinite neg => (if neg then "-" else "") ++ "inf"
  | .finite neg m e =>
    let (d, k) := shortest m e
    let ds := toString d
    let len : Int := ds.length
    let kk := len + k
    let sign := if neg then "-" else ""
    if 0 ≤ k ∧ kk ≤ 16 then
      sign ++ ds ++ String.ofList (List.replicate k.toNat '0') ++ ".0"
    else if 0 < kk ∧ kk ≤ 16 then
      sign ++ String.ofList (ds.toList.take kk.toNat) ++ "." ++
        String.ofList (ds.toList.drop kk.toNat)
    else if -5 < kk ∧ kk ≤ 0 then
      sign ++ "0." ++ String.ofList (List.replicate (-kk).toNat '0') ++ ds
    else
      let expText := (if kk - 1 ≥ 0 then "+" else "") ++ toString (kk - 1)
      if ds.length = 1 then sign ++ ds ++ "e" ++ expText
      else sign ++ String.ofList (ds.toList.take 1) ++ "." ++ String.ofList (ds.toList.drop 1) ++
        "e" ++ expText

end Decimal

end PluralForms
