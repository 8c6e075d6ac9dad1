import PluralForms.Json.Basic

/-!
# Reading JSON values

Reads standard JSON text into a `Json` value. Numbers keep their literal; objects keep every
member in order. A `\u` escape of a surrogate pair gives the character it encodes, and a
surrogate without its partner gives U+FFFD.

Nesting is bounded by the text itself: every level consumes a character, so a budget of twice the
length of the text plus two steps never runs out on text that reads.
-/

namespace PluralForms

namespace Json

def isSpace (c : Char) : Bool :=
  c = ' ' || c = '\t' || c = '\n' || c = '\r'

def skipSpace (s : List Char) : List Char :=
  s.dropWhile isSpace

def hexValue? (c : Char) : Option Nat :=
  if c.isDigit then some (c.toNat - '0'.toNat)
  else if 'a' ≤ c ∧ c ≤ 'f' then some (c.toNat - 'a'.toNat + 10)
  else if 'A' ≤ c ∧ c ≤ 'F' then some (c.toNat - 'A'.toNat + 10)
  else none

def hexQuad? (a b c d : Char) : Option Nat := do
  let x ← hexValue? a
  let y ← hexValue? b
  let z ← hexValue? c
  let w ← hexValue? d
  pure (((x * 16 + y) * 16 + z) * 16 + w)

/-- The character for a code point that is not a surrogate half, U+FFFD otherwise. -/
def charOfCode (n : Nat) : Char :=
  if n < 0xD800 ∨ (0xDFFF < n ∧ n < 0x110000) then Char.ofNat n else '\uFFFD'

def simpleEscape? (c : Char) : Option Char :=
  if c = 'b' then some '\x08' else if c = 'f' then some '\x0C'
  else if c = 'n' then some '\n' else if c = 'r' then some '\r'
  else if c = 't' then some '\t' else if c = '"' ∨ c = '\\' ∨ c = '/' then some c
  else none

/-- Reads the body of a string literal, after its opening quote, up to and including the closing
quote; `acc` holds the characters read so far, last first. -/
def readStringBody (acc : List Char) : List Char → Option (String × List Char)
  | '"' :: r => some (String.ofList acc.reverse, r)
  | '\\' :: 'u' :: a :: b :: c :: d :: r =>
    match hexQuad? a b c d with
    | none => none
    | some hi =>
      if 0xD800 ≤ hi ∧ hi ≤ 0xDBFF then
        match _hr : r with
        | '\\' :: 'u' :: a2 :: b2 :: c2 :: d2 :: r2 =>
          match hexQuad? a2 b2 c2 d2 with
          | some lo =>
            if 0xDC00 ≤ lo ∧ lo ≤ 0xDFFF then
              readStringBody
                (Char.ofNat (0x10000 + (hi - 0xD800) * 0x400 + (lo - 0xDC00)) :: acc) r2
            else readStringBody ('\uFFFD' :: acc) r
          | none => none
        | _ => readStringBody ('\uFFFD' :: acc) r
      else readStringBody (charOfCode hi :: acc) r
  | '\\' :: c :: r =>
    match simpleEscape? c with
    | some ch => readStringBody (ch :: acc) r
    | none => none
  | c :: r => if c.toNat < 0x20 then none else readStringBody (c :: acc) r
  | [] => none
termination_by s => s.length
decreasing_by all_goals (simp_wf; (try simp only [_hr, List.length_cons]); try omega)

/-- The longest run of decimal digits at the front of the text. -/
def digitRun (s : List Char) : List Char × List Char :=
  (s.takeWhile Char.isDigit, s.dropWhile Char.isDigit)

/-- Reads a number literal: `-`? (`0` | non-zero digit, digits) (`.` digits)? (`e`|`E` sign?
digits)?. -/
def readNumber (s : List Char) : Option (Json × List Char) :=
  let (sign, s1) := match s with
    | '-' :: r => (['-'], r)
    | r => ([], r)
  let (intPart, s2) := match s1 with
    | '0' :: r => (some ['0'], r)
    | r =>
      let (ds, r') := digitRun r
      if ds.isEmpty then (none, r') else (some ds, r')
  match intPart with
  | none => none
  | some ip =>
    let (frac, s3) := match s2 with
      | '.' :: r =>
        let (ds, r') := digitRun r
        if ds.isEmpty then (none, s2) else (some ('.' :: ds), r')
      | r => (some [], r)
    match frac with
    | none => none
    | some fp =>
      let (ex, s4) := match s3 with
        | e :: r =>
          if e = 'e' ∨ e = 'E' then
            let (sg, r1) := match r with
              | '+' :: t => (['+'], t)
              | '-' :: t => (['-'], t)
              | t => ([], t)
            let (ds, r2) := digitRun r1
            if ds.isEmpty then (none, s3) else (some (e :: sg ++ ds), r2)
          else (some [], s3)
        | [] => (some [], [])
      match ex with
      | none => none
      | some xp => some (.number (String.ofList (sign ++ ip ++ fp ++ xp)), s4)

mutual

/-- Reads one value after optional blanks, within a budget of `fuel` steps. -/
def readValue : Nat → List Char → Option (Json × List Char)
  | 0, _ => none
  | fuel + 1, s =>
    match skipSpace s with
    | 'n' :: 'u' :: 'l' :: 'l' :: r => some (.null, r)
    | 't' :: 'r' :: 'u' :: 'e' :: r => some (.bool true, r)
    | 'f' :: 'a' :: 'l' :: 's' :: 'e' :: r => some (.bool false, r)
    | '"' :: r => (readStringBody [] r).map fun (str, r') => (.string str, r')
    | '[' :: r =>
      match skipSpace r with
      | ']' :: r' => some (.array [], r')
      | _ => readItems fuel [] r
    | '\x7b' :: r =>
      match skipSpace r with
      | '\x7d' :: r' => some (.object [], r')
      | _ => readMembers fuel [] r
    | r => readNumber r

/-- Reads the items of an array after its opening bracket; `acc` holds those read so far, last
first. -/
def readItems : Nat → List Json → List Char → Option (Json × List Char)
  | 0, _, _ => none
  | fuel + 1, acc, s =>
    match readValue fuel s with
    | none => none
    | some (v, r) =>
      match skipSpace r with
      | ',' :: r' => readItems fuel (v :: acc) r'
      | ']' :: r' => some (.array (v :: acc).reverse, r')
      | _ => none

/-- Reads the members of an object after its opening brace; `acc` holds those read so far, last
first. -/
def readMembers : Nat → List (String × Json) → List Char → Option (Json × List Char)
  | 0, _, _ => none
  | fuel + 1, acc, s =>
    match skipSpace s with
    | '"' :: r =>
      match readStringBody [] r with
      | none => none
      | some (key, r1) =>
        match skipSpace r1 with
        | ':' :: r2 =>
          match readValue fuel r2 with
          | none => none
          | some (v, r3) =>
            match skipSpace r3 with
            | ',' :: r' => readMembers fuel ((key, v) :: acc) r'
            | '\x7d' :: r' => some (.object ((key, v) :: acc).reverse, r')
            | _ => none
        | _ => none
    | _ => none

end

/-- Reads a whole JSON text: one value, with only blanks around it. -/
def parse? (text : String) : Option Json :=
  let s := text.toList
  match readValue (2 * s.length + 2) s with
  | some (v, r) => if (skipSpace r).isEmpty then some v else none
  | none => none

end Json

end PluralForms
