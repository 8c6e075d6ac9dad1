/-!
# Plural formulas

A gettext plural formula is an integer expression over one variable `n`: decimal literals, the
negation `!`, the binary operators of C from `*` down to `||`, and the conditional `?:`. This
module holds the tree of such a formula and the facts about its operators that reading,
printing and evaluation share: how each operator is written, how tightly it binds, and whether it
yields a truth value.
-/

namespace PluralForms

/-- The binary operators a formula may use. -/
inductive BinOp where
  | add | sub | mul | div | rem
  | gt | ge | lt | le
  | eq | ne
  | and | or
  deriving DecidableEq, Repr, Inhabited

namespace BinOp

/-- Every operator, in the order the tree format lists them. -/
def all : List BinOp :=
  [.add, .sub, .mul, .div, .rem, .gt, .ge, .lt, .le, .eq, .ne, .and, .or]

def symbol : BinOp → String
  | .add => "+"
  | .sub => "-"
  | .mul => "*"
  | .div => "/"
  | .rem => "%"
  | .gt => ">"
  | .ge => ">="
  | .lt => "<"
  | .le => "<="
  | .eq => "=="
  | .ne => "!="
  | .and => "&&"
  | .or => "||"

def name : BinOp → String
  | .add => "add"
  | .sub => "sub"
  | .mul => "mul"
  | .div => "div"
  | .rem => "rem"
  | .gt => "gt"
  | .ge => "ge"
  | .lt => "lt"
  | .le => "le"
  | .eq => "eq"
  | .ne => "ne"
  | .and => "and"
  | .or => "or"

def ofName? (s : String) : Option BinOp :=
  all.find? (·.name == s)

/-- Comparisons and the logical connectives yield 0 or 1; the arithmetic operators do not. -/
def isBoolean : BinOp → Bool
  | .add | .sub | .mul | .div | .rem => false
  | _ => true

/-- Binding strength, from `||` (2) up to the multiplicative operators (7). -/
def prec : BinOp → Nat
  | .or => 2
  | .and => 3
  | .eq | .ne => 4
  | .gt | .ge | .lt | .le => 5
  | .add | .sub => 6
  | .mul | .div | .rem => 7

theorem ofName?_name (op : BinOp) : ofName? op.name = some op := by
  cases op <;> rfl

end BinOp

/-- The tree of a plural formula. Literals are 64-bit, as evaluation is. -/
inductive Formula where
  | num (value : Int64)
  | var
  | not (operand : Formula)
  | binary (op : BinOp) (lhs rhs : Formula)
  | ternary (test ifTrue ifFalse : Formula)
  deriving DecidableEq, Repr, Inhabited

namespace Formula

/-- Binding strength of a whole formula: leaves bind tightest (9), then `!` (8), then the
binary operators, and the conditional loosest (1). -/
def prec : Formula → Nat
  | .num _ | .var => 9
  | .not _ => 8
  | .binary op _ _ => op.prec
  | .ternary .. => 1

/-- The number of operator nodes (`!`, binary, conditional) on the longest path from the root
to a leaf. -/
def opHeight : Formula → Nat
  | .num _ | .var => 0
  | .not e => e.opHeight + 1
  | .binary _ l r => max l.opHeight r.opHeight + 1
  | .ternary c t f => max c.opHeight (max t.opHeight f.opHeight) + 1

def opCount : Formula → Nat
  | .num _ | .var => 0
  | .not e => e.opCount + 1
  | .binary _ l r => l.opCount + r.opCount + 1
  | .ternary c t f => c.opCount + t.opCount + f.opCount + 1

end Formula

end PluralForms
