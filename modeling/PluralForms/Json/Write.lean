import PluralForms.Json.Basic

/-!
# Writing JSON

Strings are written between double quotes with `"` and `\` escaped, the control characters
backspace, tab, line feed, form feed and carriage return written as `\b`, `\t`, `\n`, `\f`, `\r`,
the other control characters below U+0020 as `\u00xx` in lower-case hexadecimal, and every other
character as itself. The compact form has no blanks at all; the pretty form puts each item and
member on a line of its own, indented by two spaces per level, with `": "` after a key, and
writes an empty array or object as `[]` or `{}`.
-/

namespace PluralForms

namespace Json

def hexDigit (n : Nat) : Char :=
  if n < 10 then Char.ofNat ('0'.toNat + n) else Char.ofNat ('a'.toNat + n - 10)

/-- How one character is written inside a string literal. -/
def escapeChar (c : Char) : String :=
  if c = '"' then "\\\""
  else if c = '\\' then "\\\\"
  else if c = '\x08' then "\\b"
  else if c = '\t' then "\\t"
  else if c = '\n' then "\\n"
  else if c = '\x0C' then "\\f"
  else if c = '\r' then "\\r"
  else if c.toNat < 0x20 then
    String.ofList ['\\', 'u', '0', '0', hexDigit (c.toNat / 16), hexDigit (c.toNat % 16)]
  else c.toString

def quote (s : String) : String :=
  "\"" ++ String.join (s.toList.map escapeChar) ++ "\""

mutual

def write : Json → String
  | .null => "null"
  | .bool b => if b then "true" else "false"
  | .number lit => lit
  | .string s => quote s
  | .array xs => "[" ++ writeItems xs ++ "]"
  | .object ms => "\x7b" ++ writeMembers ms ++ "\x7d"

def writeItems : List Json → String
  | [] => ""
  | [x] => write x
  | x :: xs => write x ++ "," ++ writeItems xs

def writeMembers : List (String × Json) → String
  | [] => ""
  | [(k, v)] => quote k ++ ":" ++ write v
  | (k, v) :: ms => quote k ++ ":" ++ write v ++ "," ++ writeMembers ms

end

def indent (level : Nat) : String :=
  String.ofList (List.replicate (2 * level) ' ')

mutual

/-- The pretty text of a value whose first line stands at indentation `level`. -/
def pretty (level : Nat) : Json → String
  | .array [] => "[]"
  | .array xs => "[\n" ++ prettyItems (level + 1) xs ++ "\n" ++ indent level ++ "]"
  | .object [] => "\x7b\x7d"
  | .object ms => "\x7b\n" ++ prettyMembers (level + 1) ms ++ "\n" ++ indent level ++ "\x7d"
  | v => write v

def prettyItems (level : Nat) : List Json → String
  | [] => ""
  | [x] => indent level ++ pretty level x
  | x :: xs => indent level ++ pretty level x ++ ",\n" ++ prettyItems level xs

def prettyMembers (level : Nat) : List (String × Json) → String
  | [] => ""
  | [(k, v)] => indent level ++ quote k ++ ": " ++ pretty level v
  | (k, v) :: ms => indent level ++ quote k ++ ": " ++ pretty level v ++ ",\n" ++
      prettyMembers level ms

end

end Json

end PluralForms
