import PluralForms.Formula.Basic
import PluralForms.Json.Basic

/-!
# Formulas as JSON documents

The tree of a formula is exchanged as JSON. The variable is the string `"n"`; every other node is
an object with one member named for its kind:

* `{"number": i}` for a literal,
* `{"unary": {"op": "not", "operand": T}}` for a negation,
* `{"binary": {"op": OP, "lhs": T, "rhs": T}}`, with OP the operator's name (`add`, …, `or`),
* `{"ternary": {"condition": T, "if_true": T, "if_false": T}}`.
-/

namespace PluralForms

namespace Formula

def toJson : Formula → Json
  | .num v => .object [("number", Json.int v.toInt)]
  | .var => .string "n"
  | .not e => .object [("unary", .object [("op", .string "not"), ("operand", e.toJson)])]
  | .binary op l r =>
    .object [("binary", .object [("op", .string op.name), ("lhs", l.toJson), ("rhs", r.toJson)])]
  | .ternary c t f =>
    .object [("ternary", .object
      [("condition", c.toJson), ("if_true", t.toJson), ("if_false", f.toJson)])]

end Formula

end PluralForms
