import PluralForms.Decimal.Binary64

/-!
# Similar names

When a word on the command line names nothing, the closest names are suggested. Closeness is the
Jaro similarity of the two character sequences: with `m` characters matching (equal characters at
most `max(|a|, |b|) / 2 - 1` positions apart, each used once) and `t` half the number of matched
characters that stand in a different order,

  `jaro a b = (m / |a| + m / |b| + (m - t) / m) / 3`,

and 0 when nothing matches. A name is suggested when its similarity exceeds 0.7.

The similarity is computed in double precision, one rounding after every operation, so that
names that sit on the threshold are judged the same way every time (`Decimal.Binary64`).
-/

namespace PluralForms

namespace CommandLine

open Decimal

/-- The sum of two non-negative finite doubles, rounded once. -/
def addDoubles (x y : Binary64) : Binary64 :=
  let (a, b) := x.frac
  let (c, d) := y.frac
  ofFrac false (a * d + c * b) (b * d)

/-- Whether one non-negative finite double is greater than another. -/
def greater (x y : Binary64) : Bool :=
  let (a, b) := x.frac
  let (c, d) := y.frac
  a * d > c * b

/-- Matches the characters of `a`, from position `i` on, with unused characters of `b` within
`range` positions; `used` marks the characters of `b` already matched. The result marks the
matched characters of `a` and the final marks of `b`. -/
def matchChars (b : List Char) (range : Nat) :
    Nat → List Char → List Bool → List Bool × List Bool
  | _, [], used => ([], used)
  | i, c :: rest, used =>
    let low := i - range
    let high := min b.length (i + range + 1)
    let found := ((List.range high).filter fun j =>
      low ≤ j && b[j]? = some c && used[j]? = some false).head?
    match found with
    | some j =>
      let (marks, final) := matchChars b range (i + 1) rest (used.set j true)
      (true :: marks, final)
    | none =>
      let (marks, final) := matchChars b range (i + 1) rest used
      (false :: marks, final)

def matchCount (a b : List Char) : Nat :=
  let range := max a.length b.length / 2 - 1
  ((matchChars b range 0 a (List.replicate b.length false)).1.filter id).length

/-- Half the number of matched characters that stand in a different order. -/
def transpositions (a b : List Char) : Nat :=
  let range := max a.length b.length / 2 - 1
  let (marksA, marksB) := matchChars b range 0 a (List.replicate b.length false)
  let fromA := (a.zip marksA).filterMap fun (c, m) => if m then some c else none
  let fromB := (b.zip marksB).filterMap fun (c, m) => if m then some c else none
  ((fromA.zip fromB).filter fun (x, y) => x ≠ y).length / 2

/-- The Jaro similarity of two texts, as a double. -/
def jaro (a b : String) : Binary64 :=
  let xs := a.toList
  let ys := b.toList
  if xs.isEmpty && ys.isEmpty then ofNat 1
  else if xs.isEmpty || ys.isEmpty then ofNat 0
  else
    let m := matchCount xs ys
    if m = 0 then ofNat 0
    else
      let t := transpositions xs ys
      let sum := addDoubles (addDoubles (ofFrac false m xs.length) (ofFrac false m ys.length))
        (ofFrac false (m - t) m)
      Binary64.div sum (ofNat 3)

/-- The suggestion threshold, 0.7 as a double. -/
def threshold : Binary64 := ofFrac false 7 10

/-- The candidates more than 0.7 similar to a word, least similar first; equally similar ones
keep their order. -/
def similarTo (word : String) (candidates : List String) : List String :=
  let scored := (candidates.map fun c => (jaro word c, c)).filter fun p => greater p.1 threshold
  (scored.mergeSort fun p q => !greater p.1 q.1).map (·.2)

end CommandLine

end PluralForms
