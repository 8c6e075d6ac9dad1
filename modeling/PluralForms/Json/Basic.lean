/-!
# JSON values

A JSON value as read from text: numbers keep the literal they were written with, so that an
integer, a fraction and an out-of-range integer stay apart, and objects keep their members in the
order written, repeated keys included. Looking a key up takes its last occurrence.
-/

namespace PluralForms

/-- A JSON value. -/
inductive Json where
  | null
  | bool (b : Bool)
  /-- A number, as the literal it was written with. -/
  | number (literal : String)
  | string (s : String)
  | array (items : List Json)
  | object (members : List (String × Json))
  deriving Repr, Inhabited

namespace Json

def int (i : Int) : Json := .number (toString i)

def nat (n : Nat) : Json := .number (toString n)

/-- The value of the last member named `key` of an object. -/
def field? (key : String) : Json → Option Json
  | .object ms => (ms.reverse.find? (·.1 == key)).map (·.2)
  | _ => none

def digitsNat (ds : List Char) : Nat :=
  ds.foldl (fun acc c => acc * 10 + (c.toNat - '0'.toNat)) 0

/-- The value of an integer literal: an optional minus sign and decimal digits, with no fraction
and no exponent. -/
def intLiteral? (lit : String) : Option Int :=
  match lit.toList with
  | '-' :: ds => if !ds.isEmpty && ds.all Char.isDigit then some (-(digitsNat ds : Int)) else none
  | ds => if !ds.isEmpty && ds.all Char.isDigit then some (digitsNat ds) else none

/-- The integer a value holds, if it is an integer literal. -/
def asInt? : Json → Option Int
  | .number lit => intLiteral? lit
  | _ => none

def asString? : Json → Option String
  | .string s => some s
  | _ => none

def asArray? : Json → Option (List Json)
  | .array xs => some xs
  | _ => none

def isNull : Json → Bool
  | .null => true
  | _ => false

end Json

end PluralForms
