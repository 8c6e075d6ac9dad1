import PluralForms.Formula.Basic

/-!
# Evaluating a formula

Formulas compute in 64-bit two's complement: `+`, `-` and `*` wrap, `/` and `%` truncate toward
zero (so the one overflowing quotient, the least value divided by -1, is the least value again,
with remainder 0). Comparisons and connectives yield 0 or 1 and any nonzero value counts as true.
`&&`, `||` and `?:` evaluate only the operands they need, so a division by zero on a path that is
not taken does not surface. All other operators evaluate both operands, left first, and only then
look at a zero divisor.

`evalEager` evaluates every operand; `eval` agrees with it wherever `evalEager` succeeds.
-/

namespace PluralForms

/-- Why evaluating a formula, or checking its result against a rule, failed. -/
inductive EvalError where
  /-- The right operand of `/` or `%` evaluated to zero. -/
  | divisionByZero (op : BinOp)
  /-- A checked evaluation produced an index that names no plural form. -/
  | indexOutOfRange (index : Int64) (count : Nat)
  deriving DecidableEq, Repr

namespace EvalError

def message : EvalError → String
  | .divisionByZero op => "division by zero in '" ++ op.symbol ++ "' operation"
  | .indexOutOfRange i c =>
    "plural index " ++ toString i.toInt ++ " is out of range for " ++ toString c ++
      " plural forms"

end EvalError

namespace Formula

/-- A truth value as a formula value: 1 for true, 0 for false. -/
def truth (b : Bool) : Int64 := if b then 1 else 0

end Formula

namespace BinOp

def apply : BinOp → Int64 → Int64 → Except EvalError Int64
  | .add, a, b => .ok (a + b)
  | .sub, a, b => .ok (a - b)
  | .mul, a, b => .ok (a * b)
  | .div, a, b => if b = 0 then .error (.divisionByZero .div) else .ok (a / b)
  | .rem, a, b => if b = 0 then .error (.divisionByZero .rem) else .ok (a % b)
  | .gt, a, b => .ok (Formula.truth (decide (a > b)))
  | .ge, a, b => .ok (Formula.truth (decide (a ≥ b)))
  | .lt, a, b => .ok (Formula.truth (decide (a < b)))
  | .le, a, b => .ok (Formula.truth (decide (a ≤ b)))
  | .eq, a, b => .ok (Formula.truth (decide (a = b)))
  | .ne, a, b => .ok (Formula.truth (decide (a ≠ b)))
  | .and, a, b => .ok (Formula.truth (decide (a ≠ 0) && decide (b ≠ 0)))
  | .or, a, b => .ok (Formula.truth (decide (a ≠ 0) || decide (b ≠ 0)))

end BinOp

namespace Formula

/-- The value of a formula at `n`, evaluating only the operands that decide the result. -/
def eval (n : Int64) : Formula → Except EvalError Int64
  | .num v => .ok v
  | .var => .ok n
  | .not e => (e.eval n).map fun v => truth (decide (v = 0))
  | .binary .and l r =>
    (l.eval n).bind fun a =>
      if a = 0 then .ok 0 else (r.eval n).map fun b => truth (decide (b ≠ 0))
  | .binary .or l r =>
    (l.eval n).bind fun a =>
      if a ≠ 0 then .ok 1 else (r.eval n).map fun b => truth (decide (b ≠ 0))
  | .binary op l r => (l.eval n).bind fun a => (r.eval n).bind fun b => op.apply a b
  | .ternary c t f => (c.eval n).bind fun v => if v ≠ 0 then t.eval n else f.eval n

/-- The value of a formula at `n`, evaluating every operand left to right. -/
def evalEager (n : Int64) : Formula → Except EvalError Int64
  | .num v => .ok v
  | .var => .ok n
  | .not e => (e.evalEager n).map fun v => truth (decide (v = 0))
  | .binary op l r => (l.evalEager n).bind fun a => (r.evalEager n).bind fun b => op.apply a b
  | .ternary c t f =>
    (c.evalEager n).bind fun v =>
      (t.evalEager n).bind fun x => (f.evalEager n).map fun y => if v ≠ 0 then x else y

end Formula

end PluralForms
