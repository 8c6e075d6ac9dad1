/-!
# Reading integers from arguments

Numbers on the command line are decimal: an optional sign and then digits only, read left to
right. Reading stops at the first problem, so a number that is already too large is reported as
such even when a stray character follows it. A lone sign counts as a stray character. An
unsigned number takes a `+` but not a `-`.
-/

namespace PluralForms

namespace CommandLine

/-- Why a text is not an integer of the wanted kind. -/
inductive NumberError where
  | empty
  | invalidDigit
  | tooLarge
  | tooSmall
  deriving DecidableEq, Repr

def NumberError.message : NumberError → String
  | .empty => "cannot parse integer from empty string"
  | .invalidDigit => "invalid digit found in string"
  | .tooLarge => "number too large to fit in target type"
  | .tooSmall => "number too small to fit in target type"

/-- Reads digits onto `acc`; `limit` bounds the magnitude and `overflow` is the error past it. -/
def readDigits (limit : Nat) (overflow : NumberError) (acc : Nat) :
    List Char → Except NumberError Nat
  | [] => .ok acc
  | c :: rest =>
    if c.isDigit then
      let next := acc * 10 + (c.toNat - '0'.toNat)
      if next > limit then .error overflow else readDigits limit overflow next rest
    else .error .invalidDigit

/-- Reads a signed 64-bit integer: at least `-2 ^ 63` and at most `2 ^ 63 - 1`. -/
def readSigned (s : String) : Except NumberError Int :=
  match s.toList with
  | [] => .error .empty
  | ['+'] | ['-'] => .error .invalidDigit
  | '-' :: digits => (readDigits 9223372036854775808 .tooSmall 0 digits).map fun n => -(n : Int)
  | '+' :: digits => (readDigits 9223372036854775807 .tooLarge 0 digits).map fun n => (n : Int)
  | digits => (readDigits 9223372036854775807 .tooLarge 0 digits).map fun n => (n : Int)

/-- Reads an unsigned 64-bit integer: at most `2 ^ 64 - 1`. -/
def readUnsigned (s : String) : Except NumberError Nat :=
  match s.toList with
  | [] => .error .empty
  | ['+'] => .error .invalidDigit
  | '+' :: digits => readDigits 18446744073709551615 .tooLarge 0 digits
  | digits => readDigits 18446744073709551615 .tooLarge 0 digits

/-- Whether a text looks like a number: digits with at most one inner point, and at most one
inner `e` that is not last, the point before it. -/
def looksNumeric (s : List Char) : Bool :=
  let rec go (i : Nat) (dot : Bool) (e : Option Nat) : List Char → Option (Option Nat)
    | [] => some e
    | c :: rest =>
      if c.isDigit then go (i + 1) dot e rest
      else if c = '.' && !dot && e.isNone && i > 0 then go (i + 1) true e rest
      else if c = 'e' && e.isNone && i > 0 then go (i + 1) dot (some i) rest
      else none
  match go 0 false none s with
  | some (some i) => i + 1 ≠ s.length
  | some none => true
  | none => false

/-- Whether an argument is a negative number, `-` followed by a number. -/
def isNegativeNumber (s : String) : Bool :=
  match s.toList with
  | '-' :: rest => looksNumeric rest
  | _ => false

end CommandLine

end PluralForms
