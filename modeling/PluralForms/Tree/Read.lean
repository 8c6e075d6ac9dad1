import PluralForms.Json.Decode
import PluralForms.Formula.Basic

/-!
# Reading a formula from its JSON document

Reads the document described in `Tree/Write` back into a formula:

* a node is the string naming a kind without data (`"n"`), or an object with exactly one member
  whose key names the kind; `{"n": null}` is the variable too, while `"number"`, `"unary"`,
  `"binary"` and `"ternary"` alone lack their data;
* the body of `unary`, `binary` and `ternary` is a record (`Json.recordBody`): an object whose
  members may come in any order, with unknown members skipped, or an array of the fields in order;
* an operator is its name, or `{"name": null}`;
* a literal is an integer from `-2^63` to `2^63 - 1`.

Every object or array opened while reading a node takes one level from a budget of 127; the next
one is refused. A node with a body therefore takes two levels, so a chain of 63 operators reads
and one of 64 does not.
-/

namespace PluralForms

namespace Tree

open Json

/-- Nodes with a body of fields. -/
inductive Shape where
  | unary
  | binary
  | ternary
  deriving DecidableEq, Repr

def Shape.fields : Shape → List String
  | .unary => ["op", "operand"]
  | .binary => ["op", "lhs", "rhs"]
  | .ternary => ["condition", "if_true", "if_false"]

def Shape.expected : Shape → String
  | .unary => "struct variant Expr::Unary"
  | .binary => "struct variant Expr::Binary"
  | .ternary => "struct variant Expr::Ternary"

/-- The operator names a body's first field allows, if that field is an operator. -/
def Shape.operators : Shape → Option (List String)
  | .unary => some ["not"]
  | .binary => some (BinOp.all.map BinOp.name)
  | .ternary => none

/-- The kinds of node, as tagged in the document. -/
inductive Kind where
  | num
  | var
  | node (shape : Shape)
  deriving DecidableEq, Repr

def kindNames : List String := ["number", "n", "unary", "binary", "ternary"]

def Kind.ofName? (name : String) : Option Kind :=
  if name = "number" then some .num
  else if name = "n" then some .var
  else if name = "unary" then some (.node .unary)
  else if name = "binary" then some (.node .binary)
  else if name = "ternary" then some (.node .ternary)
  else none

/-- A field read from a body: an operator name or a subformula. -/
inductive Slot where
  | op (name : String)
  | tree (f : Formula)

def Shape.build : Shape → List Slot → Option Formula
  | .unary, [.op _, .tree e] => some (.not e)
  | .binary, [.op name, .tree l, .tree r] => (BinOp.ofName? name).map fun op => .binary op l r
  | .ternary, [.tree c, .tree t, .tree f] => some (.ternary c t f)
  | _, _ => none

/-- The node of a shape from a body read as `Decoded` slots. -/
def Shape.finish (shape : Shape) : Decoded (List Slot) → Decoded Formula
  | .ok slots r =>
    match shape.build slots with
    | some f => .ok f r
    | none => .error (message ("invalid fields for " ++ shape.expected)) r
  | .error e r => .error e r

/-- Closes a tagged object after its value: the value, then `}`. -/
def closeObject (src : List Char) : Decoded Formula → Decoded Formula
  | .error e r => .error e r
  | .ok v r =>
    match space r with
    | '\x7d' :: r' => .ok v r'
    | r' =>
      .error (errorAt src r' (if r'.isEmpty then .eofWhileParsingObject else .expectedSomeValue)) r'

/-- Reads one formula from the front of `s`, with `depth` levels left. -/
def formula (src : List Char) : Nat → List Char → Decoded Formula
  | depth, s =>
    match space s with
    | '"' :: r =>
      match stringBody src [] r with
      | .error e => .error e []
      | .ok (name, r1) =>
        match Kind.ofName? name with
        | some .var => .ok .var r1
        | some .num => .error (wrongType .unitVariant "newtype variant") r1
        | some (.node _) => .error (wrongType .unitVariant "struct variant") r1
        | none => .error ((unknownVariant name kindNames).placeIfMissing src r1) r1
    | '\x7b' :: r =>
      match depth with
      | 0 => .error (errorAtPeek src ('\x7b' :: r) .recursionLimitExceeded) []
      | inner + 1 =>
        match variantKey src r with
        | .error e => .error e []
        | .ok (name, r1) =>
          match Kind.ofName? name with
          | none => .error ((unknownVariant name kindNames).placeIfMissing src r1) r1
          | some kind =>
            match colon src r1 with
            | .error e => .error e []
            | .ok r2 =>
              closeObject src <|
                match kind with
                | .var => Decoded.ofScan ((unitValue src r2).map fun r3 => (Formula.var, r3))
                | .num =>
                  Decoded.ofScan ((int64Value src r2).map fun (v, r3) => (Formula.num v, r3))
                | .node shape =>
                  match space r2 with
                  | [] => .error (errorAtPeek src [] .eofWhileParsingValue) []
                  | c :: t =>
                    if c = '[' ∨ c = '\x7b' then
                      match inner with
                      | 0 => .error (errorAtPeek src (c :: t) .recursionLimitExceeded) []
                      | k + 1 =>
                        let field (i : Nat) (s' : List Char) : Decoded Slot :=
                          match shape.operators with
                          | some names =>
                            if i = 0 then (unitVariant src names k s').map Slot.op
                            else (formula src k s').map Slot.tree
                          | none => (formula src k s').map Slot.tree
                        shape.finish (recordBody src shape.fields shape.expected field (c :: t))
                    else .error (wrongTypeAt src (c :: t) shape.expected) []
    | [] => .error (errorAtPeek src [] .eofWhileParsingValue) []
    | s' => .error (errorAtPeek src s' .expectedSomeValue) s'

/-- Levels a whole document may open. -/
def depthLimit : Nat := 127

/-- Reads a whole document with `read`: one value, then only blanks. -/
def whole {α : Type} (read : List Char → List Char → Decoded α) (text : String) :
    Except Error α :=
  let src := text.toList
  match read src src with
  | .error e _ => .error e
  | .ok v r =>
    match space r with
    | [] => .ok v
    | r' => .error (errorAtPeek src r' .trailingCharacters)

end Tree

/-- Reads a formula from its JSON document. -/
def Formula.ofJsonText (text : String) : Except Json.Error Formula :=
  Tree.whole (fun src s => Tree.formula src Tree.depthLimit s) text

/-- Reads an operator from its JSON document: its name, or `{"name": null}`. -/
def BinOp.ofJsonText (text : String) : Except Json.Error BinOp :=
  match Tree.whole (fun src s => Json.unitVariant src (BinOp.all.map BinOp.name) Tree.depthLimit s)
      text with
  | .error e => .error e
  | .ok name =>
    match BinOp.ofName? name with
    | some op => .ok op
    | none => .error (Json.unknownVariant name (BinOp.all.map BinOp.name))

end PluralForms
