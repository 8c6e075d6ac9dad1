import PluralForms.Formula.Eval
import PluralForms.Formula.Render

/-!
# Plural rules

A plural rule pairs the number of plural forms of a language with the formula that picks the
form for a number. The number of forms is positive; a rule is built from a count given as a
signed word, which is checked before the formula is looked at.

Two evaluations are offered. `index` keeps the low 32 bits of the formula's value, as gettext
does, whether or not that names a form. `formIndex` keeps the full value and requires it to name
a form, `0 ≤ i < count`.
-/

namespace PluralForms

/-- Why a rule could not be built. -/
inductive RuleError where
  /-- The number of forms is not positive. -/
  | invalidCount (count : Int64)
  /-- No formula was given. -/
  | missingRoot
  deriving DecidableEq, Repr

def RuleError.message : RuleError → String
  | .invalidCount c => "plural count must be positive, got " ++ toString c.toInt
  | .missingRoot => "plural rule has no expression tree"

/-- A plural rule: a positive number of forms and the formula that chooses one. The count
comes from a signed word, so it is at most `2 ^ 63 - 1`. -/
structure Rule where
  count : Nat
  root : Formula
  count_pos : 0 < count
  count_le : count ≤ 9223372036854775807
  deriving DecidableEq

namespace Rule

/-- Builds a rule from a count and a formula that may be missing; a count that is not positive
is reported first. -/
def make? (count : Int64) (root : Option Formula) : Except RuleError Rule :=
  if h : 0 < count.toInt then
    match root with
    | some e =>
      .ok { count := count.toInt.toNat, root := e, count_pos := by omega,
            count_le := by have := Int64.toInt_lt count; omega }
    | none => .error .missingRoot
  else .error (.invalidCount count)

def make (count : Int64) (root : Formula) : Except RuleError Rule :=
  make? count (some root)

/-- The rule used when a catalog declares none: two forms, the second for every `n ≠ 1`. -/
def fallback : Rule :=
  { count := 2, root := .binary .ne .var (.num 1), count_pos := by decide,
    count_le := by decide }

/-- The low 32 bits of the formula's value at `n`, as a signed number. -/
def index (r : Rule) (n : Int64) : Except EvalError Int32 :=
  (r.root.eval n).map Int64.toInt32

/-- Whether a formula value names one of the rule's forms. -/
def names (r : Rule) (v : Int64) : Bool :=
  decide (0 ≤ v.toInt ∧ v.toInt < r.count)

/-- The formula's value at `n`, required to name one of the rule's forms. -/
def formIndex (r : Rule) (n : Int64) : Except EvalError Int64 :=
  (r.root.eval n).bind fun v =>
    if r.names v then .ok v else .error (.indexOutOfRange v r.count)

/-- The rule as a header value: `nplurals=K; plural=F;`. -/
def render (r : Rule) : String :=
  "nplurals=" ++ toString r.count ++ "; plural=" ++ r.root.render ++ ";"

end Rule

end PluralForms
