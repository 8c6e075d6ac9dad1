import PluralForms.Formula.Read
import PluralForms.Rule.Basic

/-!
# Reading a `Plural-Forms` header

A catalog declares its rule in a header such as
`Plural-Forms: nplurals=3; plural=(n==1 ? 0 : n>=2 && n<=4 ? 1 : 2);`. The grammar is

    blanks ["plural-forms" blanks ":"] blanks "nplurals" blanks "=" blanks digits blanks ";"
    blanks "plural" blanks "=" formula blanks [";"] blanks

to the end of the text, where the label is matched without regard to ASCII case and the count is
a decimal literal that fits a signed word. The label is optional as a whole: when it is not
followed by a colon, reading goes on from before it. A count of zero reads but builds no rule.
Failures are placed as for formulas.
-/

namespace PluralForms

open Text

/-- Why a header gave no rule. -/
inductive HeaderError where
  /-- The header, or its formula, could not be read. -/
  | parse (e : ParseError)
  /-- The header was read but declares no valid rule. -/
  | rule (e : RuleError)
  deriving DecidableEq, Repr

def HeaderError.message : HeaderError → String
  | .parse e => e.message
  | .rule e => "invalid plural rule: " ++ e.message

namespace Header

/-- The text after `word` at the front of `s`, compared exactly. -/
def dropWord (word : List Char) (s : List Char) : Option (List Char) :=
  if word.isPrefixOf s then some (s.drop word.length) else none

/-- The text after `word` at the front of `s`, compared without regard to ASCII case. -/
def dropWordIgnoringCase (word : List Char) (s : List Char) : Option (List Char) :=
  if (word.map Char.toLower).isPrefixOf ((s.take word.length).map Char.toLower) &&
      decide (word.length ≤ s.length) then
    some (s.drop word.length)
  else none

/-- The outcome of reading a header up to its end. -/
inductive Scan where
  /-- The count and formula were read; `rest` is the text after the closing blanks. -/
  | ok (count : Int64) (root : Formula) (rest : List Char)
  /-- Reading failed before `rest`. -/
  | fail (rest : List Char)
  /-- The formula reached the nesting limit. -/
  | tooDeep

/-- Where reading goes on after the optional label `plural-forms:`. -/
def afterLabel (s : List Char) : List Char :=
  match dropWordIgnoringCase "plural-forms".toList s with
  | some r =>
    match skipBlanks r with
    | ':' :: r' => r'
    | _ => s
  | none => s

/-- What follows the formula: blanks, an optional `;`, blanks. -/
def afterFormula (r : List Char) : List Char :=
  match skipBlanks r with
  | ';' :: t => skipBlanks t
  | r1 => r1

/-- Reads a header from the front of `s` with nesting limit `limit`. -/
def scan (limit : Nat) (s : List Char) : Scan :=
  let s2 := skipBlanks (afterLabel (skipBlanks s))
  match dropWord "nplurals".toList s2 with
  | none => .fail s2
  | some s3 =>
    match skipBlanks s3 with
    | '=' :: s5 =>
      let s6 := skipBlanks s5
      match Formula.readLiteral? s6 with
      | none => .fail s6
      | some (count, s7) =>
        match skipBlanks s7 with
        | ';' :: s9 =>
          let s10 := skipBlanks s9
          match dropWord "plural".toList s10 with
          | none => .fail s10
          | some s11 =>
            match skipBlanks s11 with
            | '=' :: s13 =>
              match Formula.step limit .conditional 0 s13 with
              | .tooDeep => .tooDeep
              | .fail r _ => .fail r
              | .ok e r _ => .ok count e (afterFormula r)
            | s12 => .fail s12
        | s8 => .fail s8
    | s4 => .fail s4

end Header

namespace Rule

/-- Reads a `Plural-Forms` header into a rule. -/
def readHeader (limits : Limits) (text : String) : Except HeaderError Rule :=
  let s := text.toList
  match Header.scan limits.maxDepth s with
  | .tooDeep => .error (.parse (.nestingTooDeep limits.maxDepth))
  | .fail r => .error (.parse (Formula.stoppedAt s r (Formula.failureDetail r)))
  | .ok count e [] =>
    match make count e with
    | .ok rule => .ok rule
    | .error err => .error (.rule err)
  | .ok _ _ (c :: rest) => .error (.parse (Formula.stoppedAt s (c :: rest) (.unexpected c)))

end Rule

end PluralForms
