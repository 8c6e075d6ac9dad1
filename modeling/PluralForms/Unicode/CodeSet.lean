/-!
# Sets and maps of code points

Character properties are kept as sorted boundary lists, the compact form Unicode property tables
take:

* a `CodeSet` is the list of code points where membership flips, the first one entering the set;
  a code point is in the set when an odd number of boundaries lie at or below it;
* a `CodeMap` gives each run of code points a value: the run starting at `starts[i]` has
  `values[i]`, up to the next start.

Both are looked up by binary search on the boundaries. The tables are written as lines of text,
boundaries in upper-case hexadecimal separated by spaces, and read once when they are first used.
-/

namespace PluralForms

namespace Unicode

/-- The value of a hexadecimal digit (`0`–`9`, `A`–`F`); other characters count as zero. -/
def hexDigit (c : Char) : Nat :=
  if c.isDigit then c.toNat - '0'.toNat
  else if 'A' ≤ c && c ≤ 'F' then c.toNat - 'A'.toNat + 10
  else 0

def readHex (s : String) : Nat :=
  s.foldl (fun acc c => acc * 16 + hexDigit c) 0

def tableWords (lines : List String) : List String :=
  lines.flatMap fun line => (line.splitOn " ").filter (· ≠ "")

/-- How many entries of a sorted array lie at or below `n`, found by binary search between
`lo` and `hi`: the entries before `lo` are known to lie at or below, those from `hi` on above. -/
def countAtMost (a : Array Nat) (n : Nat) (lo hi : Nat) : Nat :=
  if lo < hi then
    let mid := (lo + hi) / 2
    if a.getD mid 0 ≤ n then countAtMost a n (mid + 1) hi else countAtMost a n lo mid
  else lo
termination_by hi - lo

/-- A set of code points, by the sorted code points where membership flips. -/
structure CodeSet where
  bounds : Array Nat

def CodeSet.contains (s : CodeSet) (n : Nat) : Bool :=
  countAtMost s.bounds n 0 s.bounds.size % 2 = 1

/-- The set described by table lines of hexadecimal boundaries. -/
def CodeSet.ofLines (lines : List String) : CodeSet :=
  ⟨((tableWords lines).map readHex).toArray⟩

/-- A value for every code point, by runs: the run from `starts[i]` has `values[i]`; code points
before the first start have `default`. -/
structure CodeMap (α : Type) where
  starts : Array Nat
  values : Array α
  default : α

def CodeMap.find {α : Type} (m : CodeMap α) (n : Nat) : α :=
  match countAtMost m.starts n 0 m.starts.size with
  | 0 => m.default
  | k + 1 => m.values.getD k m.default

/-- Pairs the words of a table: a hexadecimal start, then the name of its value. -/
def pairWords : List String → List (Nat × String)
  | start :: name :: rest => (readHex start, name) :: pairWords rest
  | _ => []

/-- The map described by table lines of starts and value names, read by `value`. -/
def CodeMap.ofLines {α : Type} (value : String → α) (default : α) (lines : List String) :
    CodeMap α :=
  let runs := pairWords (tableWords lines)
  { starts := (runs.map (·.1)).toArray, values := (runs.map (value ·.2)).toArray, default }

end Unicode

end PluralForms
