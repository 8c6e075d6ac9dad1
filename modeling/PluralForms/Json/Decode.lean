import PluralForms.Json.Stream
import PluralForms.Unicode.Properties

/-!
# Decoding values of a given shape

Pieces for reading a JSON document straight into a value of a known shape, with the errors of a
strict reader: each error says what was found and what was expected, or names the broken token,
and carries the line and column where reading stopped.

* `wrongTypeAt` reads the value that stands where another kind was expected, to describe it;
* `variantKey`, `colon`, `unitValue`, `int64Value` read the tokens of a tagged value;
* `skipValue` passes over a value that is not wanted, checking that it is well formed;
* `unitVariant` reads one of a set of names, given bare or as `{"name": null}`.

A `Decoded` outcome keeps the text where reading stood when an error arose, so that an error
without a place can be placed after the enclosing brackets are closed.
-/

namespace PluralForms

namespace Json

open Decimal

/-- What stood in the text where a value of another kind was expected. -/
inductive Found where
  | bool (b : Bool)
  | unsigned (n : Nat)
  | signed (i : Int)
  | double (x : Binary64)
  | str (s : String)
  | null
  | seq
  | map
  | unitVariant

/-- Lower-case hexadecimal digits of a natural number, without leading zeros. -/
def hexText (n : Nat) : String :=
  String.ofList ((Nat.toDigits 16 n))

/-- Characters that are written as code points when a string is quoted for a message: those
that attach to the character before them (grapheme extenders), and those that would not show as
themselves (`Unicode.unprintable`: controls, format characters, separators other than the space,
private-use and unassigned code points). -/
def quotedAsCode (c : Char) : Bool :=
  Unicode.graphemeExtend.contains c.toNat || Unicode.unprintable.contains c.toNat

/-- How a character is written inside a quoted string in a message. -/
def quoteChar (c : Char) : String :=
  if c = '\t' then "\\t"
  else if c = '\r' then "\\r"
  else if c = '\n' then "\\n"
  else if c = '\\' then "\\\\"
  else if c = '"' then "\\\""
  else if c = '\x00' then "\\0"
  else if quotedAsCode c then "\\u\x7b" ++ hexText c.toNat ++ "\x7d"
  else c.toString

def quoteForMessage (s : String) : String :=
  "\"" ++ String.join (s.toList.map quoteChar) ++ "\""

def Found.text : Found → String
  | .bool b => "boolean `" ++ (if b then "true" else "false") ++ "`"
  | .unsigned n => "integer `" ++ toString n ++ "`"
  | .signed i => "integer `" ++ toString i ++ "`"
  | .double x => "floating point `" ++ x.text ++ "`"
  | .str s => "string " ++ quoteForMessage s
  | .null => "null"
  | .seq => "sequence"
  | .map => "map"
  | .unitVariant => "unit variant"

def errorAt (src rest : List Char) (f : Fault) : Error :=
  { fault := f, place := some (placeBefore src rest) }

def errorAtPeek (src rest : List Char) (f : Fault) : Error :=
  { fault := f, place := some (placeAtPeek src rest) }

def message (text : String) : Error :=
  { fault := .custom text }

def wrongType (found : Found) (expected : String) : Error :=
  message ("invalid type: " ++ found.text ++ ", expected " ++ expected)

def Number.found : Number → Found
  | .unsigned n => .unsigned n
  | .signed i => .signed i
  | .double x => .double x

/-- Alternatives written as `` `a` ``, `` `a` or `b` `` or `` one of `a`, `b`, `c` ``. -/
def oneOf (names : List String) : String :=
  let ticked := names.map fun n => "`" ++ n ++ "`"
  match ticked with
  | [a] => a
  | [a, b] => a ++ " or " ++ b
  | _ => "one of " ++ ", ".intercalate ticked

/-- A variant name that is not among `names`, without a place. -/
def unknownVariant (name : String) (names : List String) : Error :=
  if names.isEmpty then message ("unknown variant `" ++ name ++ "`, there are no variants")
  else message ("unknown variant `" ++ name ++ "`, expected " ++ oneOf names)

/-- The error for the value at the front of `s` when a value described by `expected` was wanted:
the value is read to describe it, and the error is placed after it. -/
def wrongTypeAt (src s : List Char) (expected : String) : Error :=
  let placed (f : Found) (rest : List Char) : Error :=
    (wrongType f expected).placeIfMissing src rest
  match s with
  | 'n' :: r =>
    match keyword src "ull".toList r with
    | .error e => e
    | .ok r' => placed .null r'
  | 't' :: r =>
    match keyword src "rue".toList r with
    | .error e => e
    | .ok r' => placed (.bool true) r'
  | 'f' :: r =>
    match keyword src "alse".toList r with
    | .error e => e
    | .ok r' => placed (.bool false) r'
  | '-' :: r =>
    match numberAfterSign src false r with
    | .error e => e
    | .ok (n, r') => placed n.found r'
  | '"' :: r =>
    match stringBody src [] r with
    | .error e => e
    | .ok (str, r') => placed (.str str) r'
  | '[' :: _ => placed .seq s
  | '\x7b' :: _ => placed .map s
  | c :: _ =>
    if c.isDigit then
      match numberAfterSign src true s with
      | .error e => e
      | .ok (n, r') => placed n.found r'
    else errorAtPeek src s .expectedSomeValue
  | [] => errorAtPeek src s .expectedSomeValue

/-- The outcome of reading part of a document: a value and the text after it, or an error and
the text where reading stood when it arose. -/
inductive Decoded (α : Type) where
  | ok (value : α) (rest : List Char)
  | error (e : Error) (rest : List Char)

def Decoded.ofScan {α : Type} : Scan (α × List Char) → Decoded α
  | .ok (v, r) => .ok v r
  | .error e => .error e []

def Decoded.map {α β : Type} (f : α → β) : Decoded α → Decoded β
  | .ok v r => .ok (f v) r
  | .error e r => .error e r

/-- Reads the key naming the variant of a tagged object, after its opening brace: blanks, then a
string literal, where anything else is refused as a key. -/
def variantKey (src s : List Char) : Scan (String × List Char) :=
  match space s with
  | [] => failPeek src [] .eofWhileParsingValue
  | '"' :: r => stringBody src [] r
  | s' => failPeek src s' .keyMustBeAString

def colon (src s : List Char) : Scan (List Char) :=
  match space s with
  | ':' :: r => .ok r
  | [] => failPeek src [] .eofWhileParsingObject
  | s' => failPeek src s' .expectedColon

def unitValue (src s : List Char) : Scan (List Char) :=
  match space s with
  | [] => failPeek src [] .eofWhileParsingValue
  | 'n' :: r => keyword src "ull".toList r
  | s' => .error (wrongTypeAt src s' "unit")

def int64Value (src s : List Char) : Scan (Int64 × List Char) :=
  let accept (n : Number) (r : List Char) : Scan (Int64 × List Char) :=
    match n with
    | .unsigned u =>
      if u < 9223372036854775808 then .ok (Int64.ofNat u, r)
      else .error ((message ("invalid value: integer `" ++ toString u ++
        "`, expected i64")).placeIfMissing src r)
    | .signed i => .ok (Int64.ofInt i, r)
    | .double x => .error ((wrongType (.double x) "i64").placeIfMissing src r)
  match space s with
  | [] => failPeek src [] .eofWhileParsingValue
  | '-' :: r =>
    match numberAfterSign src false r with
    | .error e => .error e
    | .ok (n, r') => accept n r'
  | c :: r =>
    if c.isDigit then
      match numberAfterSign src true (c :: r) with
      | .error e => .error e
      | .ok (n, r') => accept n r'
    else .error (wrongTypeAt src (c :: r) "i64")

/-- Skips an integer, its sign already taken, with an optional fraction and exponent. -/
def skipNumberAfterSign (src s : List Char) : Scan (List Char) :=
  let afterExponent (r : List Char) : Scan (List Char) :=
    let r1 := match r with
      | '+' :: t => t
      | '-' :: t => t
      | t => t
    match r1 with
    | c :: t => if c.isDigit then .ok (t.dropWhile Char.isDigit) else failAt src t .invalidNumber
    | [] => failAt src [] .invalidNumber
  let afterInteger (r : List Char) : Scan (List Char) :=
    match r with
    | '.' :: t =>
      let ds := t.takeWhile Char.isDigit
      let t2 := t.dropWhile Char.isDigit
      if ds.isEmpty then failPeek src t .invalidNumber
      else match t2 with
        | e :: t3 => if e = 'e' ∨ e = 'E' then afterExponent t3 else .ok t2
        | [] => .ok t2
    | e :: t => if e = 'e' ∨ e = 'E' then afterExponent t else .ok r
    | [] => .ok r
  match s with
  | '0' :: r =>
    match r with
    | d :: _ => if d.isDigit then failPeek src r .invalidNumber else afterInteger r
    | [] => afterInteger r
  | c :: r =>
    if c.isDigit then afterInteger (r.dropWhile Char.isDigit) else failAt src r .invalidNumber
  | [] => failAt src [] .invalidNumber

mutual

/-- Skips any JSON value, checking that it is well formed. -/
def skipValue (src : List Char) : Nat → List Char → Scan (List Char)
  | 0, s => failPeek src s .recursionLimitExceeded
  | fuel + 1, s =>
    match space s with
    | [] => failPeek src [] .eofWhileParsingValue
    | 'n' :: r => keyword src "ull".toList r
    | 't' :: r => keyword src "rue".toList r
    | 'f' :: r => keyword src "alse".toList r
    | '-' :: r => skipNumberAfterSign src r
    | '"' :: r => skipStringBody src r
    | '[' :: r =>
      match space r with
      | ']' :: r' => .ok r'
      | [] => failPeek src [] .eofWhileParsingList
      | r' => skipItems src fuel r'
    | '\x7b' :: r =>
      match space r with
      | '\x7d' :: r' => .ok r'
      | [] => failPeek src [] .eofWhileParsingObject
      | r' => skipMembers src fuel r'
    | c :: r =>
      if c.isDigit then skipNumberAfterSign src (c :: r)
      else failPeek src (c :: r) .expectedSomeValue

def skipItems (src : List Char) : Nat → List Char → Scan (List Char)
  | 0, s => failPeek src s .recursionLimitExceeded
  | fuel + 1, s =>
    match skipValue src fuel s with
    | .error e => .error e
    | .ok r =>
      match space r with
      | ',' :: r' => skipItems src fuel r'
      | ']' :: r' => .ok r'
      | [] => failPeek src [] .eofWhileParsingList
      | r' => failPeek src r' .expectedListCommaOrEnd

/-- Skips the members of an object from its first member on. -/
def skipMembers (src : List Char) : Nat → List Char → Scan (List Char)
  | 0, s => failPeek src s .recursionLimitExceeded
  | fuel + 1, s =>
    match space s with
    | '"' :: r =>
      match skipStringBody src r with
      | .error e => .error e
      | .ok r1 =>
        match colon src r1 with
        | .error e => .error e
        | .ok r2 =>
          match skipValue src fuel r2 with
          | .error e => .error e
          | .ok r3 =>
            match space r3 with
            | ',' :: r' => skipMembers src fuel r'
            | '\x7d' :: r' => .ok r'
            | [] => failPeek src [] .eofWhileParsingObject
            | r' => failPeek src r' .expectedObjectCommaOrEnd
    | [] => failPeek src [] .eofWhileParsingObject
    | s' => failPeek src s' .keyMustBeAString

end

/-- Reads a value of a kind without data, written as its name or as `{"name": null}`; `names` are
the allowed names, and the object form takes a level from `depth`. -/
def unitVariant (src : List Char) (names : List String) (depth : Nat) (s : List Char) :
    Decoded String :=
  match space s with
  | '"' :: r =>
    match stringBody src [] r with
    | .error e => .error e []
    | .ok (name, r1) =>
      if names.contains name then .ok name r1
      else .error ((unknownVariant name names).placeIfMissing src r1) r1
  | '\x7b' :: r =>
    match depth with
    | 0 => .error (errorAtPeek src ('\x7b' :: r) .recursionLimitExceeded) []
    | _ + 1 =>
      match variantKey src r with
      | .error e => .error e []
      | .ok (name, r1) =>
        if !names.contains name then
          .error ((unknownVariant name names).placeIfMissing src r1) r1
        else
          match colon src r1 with
          | .error e => .error e []
          | .ok r2 =>
            match unitValue src r2 with
            | .error e => .error e []
            | .ok r3 =>
              match space r3 with
              | '\x7d' :: r4 => .ok name r4
              | r4 =>
                .error (errorAt src r4
                  (if r4.isEmpty then .eofWhileParsingObject else .expectedSomeValue)) r4
  | [] => .error (errorAtPeek src [] .eofWhileParsingValue) []
  | s' => .error (errorAtPeek src s' .expectedSomeValue) s'

/-- Where the next item of an array starts, after its separator; `none` at the closing bracket.
`first` tells whether any item came before. -/
def itemStart (src : List Char) (first : Bool) (s : List Char) : Scan (Option (List Char)) :=
  match space s with
  | ']' :: _ => .ok none
  | [] => failPeek src [] .eofWhileParsingList
  | c :: r =>
    if first then .ok (some (c :: r))
    else if c = ',' then
      match space r with
      | ']' :: r' => failPeek src (']' :: r') .trailingComma
      | [] => failPeek src [] .eofWhileParsingValue
      | r' => .ok (some r')
    else failPeek src (c :: r) .expectedListCommaOrEnd

/-- Where the next key of an object starts, after its opening quote; `none` at the closing
brace. `first` tells whether any member came before. -/
def memberStart (src : List Char) (first : Bool) (s : List Char) : Scan (Option (List Char)) :=
  match space s with
  | '\x7d' :: _ => .ok none
  | [] => failPeek src [] .eofWhileParsingObject
  | c :: r =>
    if first then
      if c = '"' then .ok (some r) else failPeek src (c :: r) .keyMustBeAString
    else if c = ',' then
      match space r with
      | '"' :: r' => .ok (some r')
      | '\x7d' :: r' => failPeek src ('\x7d' :: r') .trailingComma
      | [] => failPeek src [] .eofWhileParsingValue
      | r' => failPeek src r' .keyMustBeAString
    else failPeek src (c :: r) .expectedObjectCommaOrEnd

/-- Closes an array read as a record: the text after its closing bracket, or the error found
instead and the text where it was found. -/
def closeItems (src s : List Char) : Option Error × List Char :=
  match space s with
  | ']' :: r => (none, r)
  | ',' :: r =>
    match space r with
    | ']' :: r' => (some (errorAtPeek src (']' :: r') .trailingComma), ']' :: r')
    | r' => (some (errorAtPeek src r' .trailingCharacters), r')
  | [] => (some (errorAtPeek src [] .eofWhileParsingList), [])
  | s' => (some (errorAtPeek src s' .trailingCharacters), s')

/-- Closes an object read as a record: the text after its closing brace, or the error found
instead and the text where it was found. -/
def closeMembers (src s : List Char) : Option Error × List Char :=
  match space s with
  | '\x7d' :: r => (none, r)
  | ',' :: r => (some (errorAtPeek src (',' :: r) .trailingComma), ',' :: r)
  | [] => (some (errorAtPeek src [] .eofWhileParsingObject), [])
  | s' => (some (errorAtPeek src s' .trailingCharacters), s')

/-- Reads the fields of a record given as an array, in order: `indices` are the fields still to
read, and `field i` reads field `i`. Too few items is an error naming how many came. -/
def recordItems {α : Type} (src : List Char) (expected : String)
    (field : Nat → List Char → Decoded α) :
    List Nat → Bool → List α → List Char → Decoded (List α)
  | [], _, acc, s => .ok acc.reverse s
  | i :: rest, first, acc, s =>
    match itemStart src first s with
    | .error e => .error e []
    | .ok none =>
      .error (message ("invalid length " ++ toString i ++ ", expected " ++ expected)) (space s)
    | .ok (some r) =>
      match field i r with
      | .ok v r' => recordItems src expected field rest false (v :: acc) r'
      | .error e r' => .error e r'

/-- Reads the members of a record given as an object, after its opening brace: a member named
`names[i]` is read by `field i` into slot `i`, a member of another name is skipped, and a name
given twice is an error. -/
def recordMembers {α : Type} (src : List Char) (names : List String)
    (field : Nat → List Char → Decoded α) :
    Nat → Bool → List (Option α) → List Char → Decoded (List (Option α))
  | 0, _, _, s => .error (errorAtPeek src s .recursionLimitExceeded) []
  | fuel + 1, first, slots, s =>
    match memberStart src first s with
    | .error e => .error e []
    | .ok none => .ok slots (space s)
    | .ok (some r) =>
      match stringBody src [] r with
      | .error e => .error e []
      | .ok (key, r1) =>
        match names.idxOf? key with
        | some i =>
          if (slots.getD i none).isSome then
            .error (message ("duplicate field `" ++ key ++ "`")) r1
          else
            match colon src r1 with
            | .error e => .error e []
            | .ok r2 =>
              match field i r2 with
              | .ok v r3 => recordMembers src names field fuel false (slots.set i (some v)) r3
              | .error e r3 => .error e r3
        | none =>
          match colon src r1 with
          | .error e => .error e []
          | .ok r2 =>
            match skipValue src (2 * r2.length + 2) r2 with
            | .error e => .error e []
            | .ok r3 => recordMembers src names field fuel false slots r3

/-- The values of all fields in order, or the error for the first one missing. -/
def allGiven {α : Type} : List String → List (Option α) → Except Error (List α)
  | name :: names, slot :: slots =>
    match slot with
    | none => .error (message ("missing field `" ++ name ++ "`"))
    | some v => (allGiven names slots).map (v :: ·)
  | _, _ => .ok []

/-- Reads the body of a record, the text starting with its `[` or `{`: the fields named `names`,
each read by `field`. Once the fields are read the bracket is closed, also after an error, and an
error without a place is placed where closing stopped. `expected` names the record for errors. -/
def recordBody {α : Type} (src : List Char) (names : List String) (expected : String)
    (field : Nat → List Char → Decoded α) (s : List Char) : Decoded (List α) :=
  let finish (ret : Decoded (List α)) (close : Option Error × List Char) : Decoded (List α) :=
    match ret, close with
    | .ok v _, (none, r) => .ok v r
    | .ok _ _, (some e, r) => .error (e.placeIfMissing src r) r
    | .error e _, (_, r) => .error (e.placeIfMissing src r) r
  match s with
  | '[' :: r =>
    let ret := recordItems src (expected ++ " with " ++ toString names.length ++ " elements")
      field (List.range names.length) true [] r
    let stop := match ret with
      | .ok _ r' | .error _ r' => r'
    finish ret (closeItems src stop)
  | '\x7b' :: r =>
    let ret : Decoded (List α) :=
      match recordMembers src names field (r.length + 1) true (names.map fun _ => none) r with
      | .ok slots r' =>
        match allGiven names slots with
        | .ok vs => .ok vs r'
        | .error e => .error e r'
      | .error e r' => .error e r'
    let stop := match ret with
      | .ok _ r' | .error _ r' => r'
    finish ret (closeMembers src stop)
  | _ => .error (wrongTypeAt src s expected) []

end Json

end PluralForms
