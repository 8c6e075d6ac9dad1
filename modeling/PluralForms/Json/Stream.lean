import PluralForms.Json.Read
import PluralForms.Decimal.Binary64
import PluralForms.Text.Position

/-!
# Positioned JSON scanning

The pieces from which typed values are read out of JSON text, with errors that say where the
text went wrong. A position is a line (from 1) and a byte column (from 0, the number of bytes
before the place on its line). An error found by looking at the next character without taking it
is placed after that character's first byte; one found after taking characters is placed after
them. Some errors are raised with no position and receive one from the enclosing value.

Numbers: a literal without fraction or exponent is an unsigned integer when it fits 64 bits, a
signed one when it is negative and fits, and a double otherwise (`-0` is the double `-0.0`);
integer digits past the 64-bit range are dropped and counted as powers of ten. A fraction or an
exponent makes a double, computed as the significand rounded to a double and then multiplied or
divided by a double power of ten; an exponent that leaves the finite range is an error, and one
too small gives zero.
-/

namespace PluralForms

namespace Json

open Decimal

/-- What went wrong while reading JSON text. -/
inductive Fault where
  | eofWhileParsingList
  | eofWhileParsingObject
  | eofWhileParsingString
  | eofWhileParsingValue
  | expectedColon
  | expectedListCommaOrEnd
  | expectedObjectCommaOrEnd
  | expectedSomeIdent
  | expectedSomeValue
  | invalidEscape
  | invalidNumber
  | numberOutOfRange
  | controlCharacterWhileParsingString
  | keyMustBeAString
  | loneLeadingSurrogateInHexEscape
  | trailingComma
  | trailingCharacters
  | unexpectedEndOfHexEscape
  | recursionLimitExceeded
  /-- A value of the wrong shape, described in words. -/
  | custom (message : String)
  deriving DecidableEq, Repr

def Fault.text : Fault → String
  | .eofWhileParsingList => "EOF while parsing a list"
  | .eofWhileParsingObject => "EOF while parsing an object"
  | .eofWhileParsingString => "EOF while parsing a string"
  | .eofWhileParsingValue => "EOF while parsing a value"
  | .expectedColon => "expected `:`"
  | .expectedListCommaOrEnd => "expected `,` or `]`"
  | .expectedObjectCommaOrEnd => "expected `,` or `\x7d`"
  | .expectedSomeIdent => "expected ident"
  | .expectedSomeValue => "expected value"
  | .invalidEscape => "invalid escape"
  | .invalidNumber => "invalid number"
  | .numberOutOfRange => "number out of range"
  | .controlCharacterWhileParsingString =>
    "control character (\\u0000-\\u001F) found while parsing a string"
  | .keyMustBeAString => "key must be a string"
  | .loneLeadingSurrogateInHexEscape => "lone leading surrogate in hex escape"
  | .trailingComma => "trailing comma"
  | .trailingCharacters => "trailing characters"
  | .unexpectedEndOfHexEscape => "unexpected end of hex escape"
  | .recursionLimitExceeded => "recursion limit exceeded"
  | .custom m => m

/-- An error in JSON text, placed at a line and byte column when known. -/
structure Error where
  fault : Fault
  place : Option (Nat × Nat) := none
  deriving DecidableEq, Repr

def Error.message (e : Error) : String :=
  match e.place with
  | none => e.fault.text
  | some (l, c) => e.fault.text ++ " at line " ++ toString l ++ " column " ++ toString c

def placeAfter (consumed : List Char) : Nat × Nat :=
  (consumed.count '\n' + 1,
    consumed.foldl (fun acc c => if c = '\n' then 0 else acc + c.utf8Size) 0)

/-- The place of `rest` within `src`, after everything before it. -/
def placeBefore (src rest : List Char) : Nat × Nat :=
  placeAfter (src.take (src.length - rest.length))

def placeAtPeek (src rest : List Char) : Nat × Nat :=
  match rest with
  | [] => placeBefore src rest
  | c :: _ =>
    let (l, col) := placeBefore src rest
    if c = '\n' then (l + 1, 0) else (l, col + 1)

/-- The place `k` bytes into `rest`, which may be inside a character: the bytes of it taken
count towards the column. -/
def placeInto (src rest : List Char) (k : Nat) : Nat × Nat :=
  let rec go (line col : Nat) : Nat → List Char → Nat × Nat
    | 0, _ => (line, col)
    | _, [] => (line, col)
    | k + 1, c :: cs =>
      if c = '\n' then go (line + 1) 0 k cs
      else if k + 1 < c.utf8Size then (line, col + k + 1)
      else go line (col + c.utf8Size) (k + 1 - c.utf8Size) cs
  let (line, col) := placeBefore src rest
  go line col k rest

/-- Things read from JSON text: a result or a positioned error. -/
abbrev Scan (α : Type) := Except Error α

def failAt {α : Type} (src rest : List Char) (f : Fault) : Scan α :=
  .error { fault := f, place := some (placeBefore src rest) }

def failPeek {α : Type} (src rest : List Char) (f : Fault) : Scan α :=
  .error { fault := f, place := some (placeAtPeek src rest) }

def failInto {α : Type} (src rest : List Char) (k : Nat) (f : Fault) : Scan α :=
  .error { fault := f, place := some (placeInto src rest k) }

/-- The error for the four bytes after `\u` in `rest` when they are not four hexadecimal
digits: the text ends within them, or they are taken and found wrong. -/
def badHex {α : Type} (src rest : List Char) : Scan α :=
  if Text.utf8Length (rest.take 4) < 4 then failAt src [] .eofWhileParsingString
  else failInto src rest 4 .invalidEscape

/-- Gives an error without a position the position before `rest`. -/
def Error.placeIfMissing (src rest : List Char) (e : Error) : Error :=
  match e.place with
  | none => { e with place := some (placeBefore src rest) }
  | some _ => e

def space (s : List Char) : List Char := skipSpace s

/-- Takes the letters of a keyword, after its first letter. -/
def keyword (src : List Char) : List Char → List Char → Scan (List Char)
  | [], s => .ok s
  | _ :: _, [] => failAt src [] .eofWhileParsingValue
  | w :: ws, c :: r => if c = w then keyword src ws r else failAt src r .expectedSomeIdent

/-- Reads the body of a string literal after its opening quote, up to and including the closing
quote. Escapes must be valid and surrogates paired. The text is read byte by byte: `\u` takes the
next four bytes, a leading surrogate must be followed by `\u` (a byte that is not is taken before
the error), and a wrong escape letter is reported after its first byte. -/
def stringBody (src : List Char) (acc : List Char) : List Char → Scan (String × List Char)
  | [] => failAt src [] .eofWhileParsingString
  | '"' :: r => .ok (String.ofList acc.reverse, r)
  | '\\' :: 'u' :: a :: b :: c :: d :: r =>
    match hexQuad? a b c d with
    | none => badHex src (a :: b :: c :: d :: r)
    | some n =>
      if 0xDC00 ≤ n ∧ n ≤ 0xDFFF then failAt src r .loneLeadingSurrogateInHexEscape
      else if n < 0xD800 ∨ 0xDBFF < n then stringBody src (Char.ofNat n :: acc) r
      else
        match r with
        | [] => failAt src [] .eofWhileParsingString
        | ['\\'] => failAt src [] .eofWhileParsingString
        | '\\' :: 'u' :: a2 :: b2 :: c2 :: d2 :: r2 =>
          match hexQuad? a2 b2 c2 d2 with
          | none => badHex src (a2 :: b2 :: c2 :: d2 :: r2)
          | some n2 =>
            if 0xDC00 ≤ n2 ∧ n2 ≤ 0xDFFF then
              stringBody src
                (Char.ofNat (0x10000 + (n - 0xD800) * 0x400 + (n2 - 0xDC00)) :: acc) r2
            else failAt src r2 .loneLeadingSurrogateInHexEscape
        | '\\' :: 'u' :: r2 => badHex src r2
        | '\\' :: r3 => failInto src r3 1 .unexpectedEndOfHexEscape
        | r3 => failInto src r3 1 .unexpectedEndOfHexEscape
  | '\\' :: 'u' :: r => badHex src r
  | '\\' :: c :: r =>
    match simpleEscape? c with
    | some ch => stringBody src (ch :: acc) r
    | none => failInto src (c :: r) 1 .invalidEscape
  | ['\\'] => failAt src [] .eofWhileParsingString
  | c :: r =>
    if c.toNat < 0x20 then failAt src r .controlCharacterWhileParsingString
    else stringBody src (c :: acc) r
termination_by s => s.length
decreasing_by all_goals (simp_wf; try omega)

/-- Skips the body of a string literal after its opening quote; escapes are checked for shape
only, byte by byte as in `stringBody`. -/
def skipStringBody (src : List Char) : List Char → Scan (List Char)
  | [] => failAt src [] .eofWhileParsingString
  | '"' :: r => .ok r
  | '\\' :: 'u' :: a :: b :: c :: d :: r =>
    match hexQuad? a b c d with
    | none => badHex src (a :: b :: c :: d :: r)
    | some _ => skipStringBody src r
  | '\\' :: 'u' :: r => badHex src r
  | '\\' :: c :: r =>
    match simpleEscape? c with
    | some _ => skipStringBody src r
    | none => failInto src (c :: r) 1 .invalidEscape
  | ['\\'] => failAt src [] .eofWhileParsingString
  | c :: r =>
    if c.toNat < 0x20 then failAt src (c :: r) .controlCharacterWhileParsingString
    else skipStringBody src r

/-- A number as JSON text gives it. -/
inductive Number where
  /-- A non-negative integer below `2^64`. -/
  | unsigned (n : Nat)
  /-- A negative integer not below `-2^63`. -/
  | signed (i : Int)
  /-- Any other number. -/
  | double (x : Binary64)
  deriving DecidableEq, Repr

/-- `2^64 - 1`, the largest unsigned 64-bit value. -/
def maxU64 : Nat := 18446744073709551615

/-- The double `10^k`, correctly rounded. -/
def pow10Double (k : Nat) : Binary64 := ofFrac false (Nat.pow 10 k) 1

/-- `significand · 10^exponent` as a double, by rounding the significand and then multiplying or
dividing by one double power of ten at a time, never more than `10^308` at once. -/
def scaleDouble (significand : Nat) (exponent : Int) : Option Binary64 :=
  let rec go : Nat → Binary64 → Int → Option Binary64
    | 0, f, _ => some f
    | fuel + 1, f, k =>
      if k.natAbs ≤ 308 then
        if 0 ≤ k then
          let g := f.mul (pow10Double k.toNat)
          if g.isInfinite then none else some g
        else some (f.div (pow10Double k.natAbs))
      else if f.isZero then some f
      else if 0 ≤ k then none
      else go fuel (f.div (pow10Double 308)) (k + 308)
  go 8 (Decimal.ofNat significand) exponent

def digitsFront (s : List Char) : List Char × List Char :=
  (s.takeWhile Char.isDigit, s.dropWhile Char.isDigit)

/-- Finishes a double from its significand and decimal exponent, with its sign. -/
def finishDouble (src rest : List Char) (positive : Bool) (sig : Nat) (exp : Int) :
    Scan (Number × List Char) :=
  match scaleDouble sig exp with
  | none => failAt src rest .numberOutOfRange
  | some f => .ok (.double (if positive then f else f.negate), rest)

/-- The largest exponent a decimal exponent may have, `2 ^ 31 - 1`. -/
def maxI32 : Nat := 2147483647

/-- The index of the first digit of `ds` at which the value of the digits so far passes
`bound`. -/
def overflowIndex (bound : Nat) (ds : List Char) : Option Nat :=
  (List.range ds.length).find? fun i => decide (bound < Json.digitsNat (ds.take (i + 1)))

/-- Reads an exponent after its `e`, for a number with significand `sig` and decimal exponent
`start` so far. -/
def exponentPart (src : List Char) (positive : Bool) (sig : Nat) (start : Int)
    (s : List Char) : Scan (Number × List Char) :=
  let (positiveExp, s1) := match s with
    | '+' :: r => (true, r)
    | '-' :: r => (false, r)
    | r => (true, r)
  match s1 with
  | [] => failAt src [] .eofWhileParsingValue
  | c :: r =>
    if !c.isDigit then failAt src r .invalidNumber
    else
      let (ds, r2) := digitsFront (c :: r)
      match overflowIndex maxI32 ds with
      | none =>
        let v : Int := Json.digitsNat ds
        finishDouble src r2 positive sig (if positiveExp then start + v else start - v)
      | some i =>
        if sig ≠ 0 ∧ positiveExp then failAt src ((c :: r).drop (i + 1)) .numberOutOfRange
        else .ok (.double (if positive then .zero false else .zero true), r2)

/-- Reads the part of a number after its integer digits: a fraction, an exponent, or nothing.
Fraction digits join the significand while it stays below `2^64`; later ones are ignored. -/
def afterInteger (src : List Char) (positive : Bool) (sig : Nat) (dropped : Nat)
    (s : List Char) : Scan (Number × List Char) :=
  match s with
  | '.' :: r =>
    let (ds, r2) := digitsFront r
    if ds.isEmpty then
      match r with
      | [] => failPeek src [] .eofWhileParsingValue
      | _ => failPeek src r .invalidNumber
    else
      let rec fold : List Char → Nat → Int → Nat × Int
        | [], acc, e => (acc, e)
        | d :: more, acc, e =>
          let v := acc * 10 + (d.toNat - '0'.toNat)
          if maxU64 < v then (acc, e) else fold more v (e - 1)
      let (sig', e) := fold ds sig dropped
      match r2 with
      | c :: r3 => if c = 'e' ∨ c = 'E' then exponentPart src positive sig' e r3
                   else finishDouble src r2 positive sig' e
      | [] => finishDouble src r2 positive sig' e
  | c :: r =>
    if c = 'e' ∨ c = 'E' then exponentPart src positive sig dropped r
    else if dropped ≠ 0 then finishDouble src s positive sig dropped
    else if positive then .ok (.unsigned sig, s)
    else if sig = 0 then .ok (.double (.zero true), s)
    else if sig ≤ 9223372036854775808 then .ok (.signed (-(sig : Int)), s)
    else finishDouble src s positive sig 0
  | [] =>
    if dropped ≠ 0 then finishDouble src s positive sig dropped
    else if positive then .ok (.unsigned sig, s)
    else if sig = 0 then .ok (.double (.zero true), s)
    else if sig ≤ 9223372036854775808 then .ok (.signed (-(sig : Int)), s)
    else finishDouble src s positive sig 0

/-- Reads a number whose sign has been read: its integer digits, then the rest. Digits join the
significand while it stays below `2^64`; each later one only raises the exponent. -/
def numberAfterSign (src : List Char) (positive : Bool) (s : List Char) : Scan (Number × List Char) :=
  match s with
  | [] => failAt src [] .eofWhileParsingValue
  | '0' :: r =>
    match r with
    | d :: _ => if d.isDigit then failPeek src r .invalidNumber else afterInteger src positive 0 0 r
    | [] => afterInteger src positive 0 0 r
  | c :: r =>
    if c.isDigit then
      let (ds, r2) := digitsFront (c :: r)
      let rec fold : List Char → Nat → Nat × Nat
        | [], acc => (acc, 0)
        | d :: more, acc =>
          let v := acc * 10 + (d.toNat - '0'.toNat)
          if maxU64 < v then (acc, more.length + 1) else fold more v
      let (sig, dropped) := fold ds 0
      afterInteger src positive sig dropped r2
    else failAt src r .invalidNumber

end Json

end PluralForms
