import PluralForms.Formula.Basic

/-!
# Writing a formula as text

A formula is written with the fewest parentheses that keep its tree: a left operand is wrapped
when it binds more loosely than its operator, a right operand also when it binds equally (the
binary operators group to the left), the operand of `!` when it is not a leaf or another `!`,
and the test of a conditional when it is itself a conditional (the conditional groups to the
right). Operators stand between single spaces, and literals are written in decimal with a
leading `-` when negative.
-/

namespace PluralForms

namespace Formula

def parenIf (wrap : Bool) (text : String) : String :=
  if wrap then "(" ++ text ++ ")" else text

/-- The text of a formula, with the fewest parentheses that keep its tree. -/
def render : Formula → String
  | .num v => toString v.toInt
  | .var => "n"
  | .not e => "!" ++ parenIf (decide (e.prec < 8)) e.render
  | .binary op l r =>
    parenIf (decide (l.prec < op.prec)) l.render ++ " " ++ op.symbol ++ " " ++
      parenIf (decide (r.prec ≤ op.prec)) r.render
  | .ternary c t f =>
    parenIf (decide (c.prec ≤ 1)) c.render ++ " ? " ++ t.render ++ " : " ++ f.render

end Formula

end PluralForms
