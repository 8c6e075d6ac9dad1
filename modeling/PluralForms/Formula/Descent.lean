import PluralForms.Rule.Header

/-!
# Reading with a nesting record

`Formula.step` passes the nesting depth down as an argument, so no construct can hand it back
changed. Written as the recursive descent it stands for, reading keeps the depth in a record
carried along the input, beside a flag that says whether the limit was hit, and its routines
change that record as they go: `descend` takes a level or, at the limit, sets the flag and cuts
the reading; `nested` and every chain put the depth back to what it was when they began, however
they end.

A parser ends in one of three ways. A backtrack lets an enclosing option or alternative go back
to where it began and try something else; going back restores the text only, never the record. A
cut is passed on by every combinator and ends the reading.

This module writes that reading down routine by routine, over an input that carries the record.
Its recursion is counted by a fuel argument, and `none` says the fuel ran out. The depth in the
record is at most the limit by construction: `descend`, the only parser that raises it, checks
first that it is below the limit.
-/

namespace PluralForms

namespace Descent

open Text Formula

/-- The nesting record of a reading under the limit `limit`: the depth reached, and whether the
limit was hit. -/
@[ext]
structure Nesting (limit : Nat) where
  depth : Nat
  exceeded : Bool
  depth_le : depth ≤ limit

def Nesting.deeper {limit : Nat} (n : Nesting limit) (h : n.depth < limit) : Nesting limit :=
  ⟨n.depth + 1, n.exceeded, h⟩

/-- What a parser reads from: the text still to read and the nesting record. -/
@[ext]
structure Input (limit : Nat) where
  text : List Char
  nesting : Nesting limit

/-- How a parser ends: with a value, with a backtrack that an enclosing option or alternative
may recover from, or with a cut that ends the reading. -/
inductive Answer (α : Type) where
  | ok (value : α)
  | backtrack
  | cut
  deriving DecidableEq, Repr

def Answer.isCut {α : Type} : Answer α → Bool
  | .cut => true
  | _ => false

/-- A parser: from an input, its answer and the input as it leaves it, or `none` when the fuel
of its recursion ran out. -/
def Parse (limit : Nat) (α : Type) : Type := Input limit → Option (Answer α × Input limit)

namespace Parse

variable {L : Nat} {α β : Type}

/-- Runs `p` and then `k` on its value; a backtrack or a cut of `p` ends the run there. -/
def bind (p : Parse L α) (k : α → Parse L β) : Parse L β := fun i =>
  match p i with
  | some (.ok a, o) => k a o
  | some (.backtrack, o) => some (.backtrack, o)
  | some (.cut, o) => some (.cut, o)
  | none => none

instance : Monad (Parse L) where
  pure a := fun i => some (.ok a, i)
  bind := bind

/-- A token: when `f` finds one at the front of the text, its value and the text after it;
otherwise a backtrack where the parser began. -/
def token (f : List Char → Option (α × List Char)) : Parse L α := fun i =>
  match f i.text with
  | some (a, r) => some (.ok a, { i with text := r })
  | none => some (.backtrack, i)

/-- The character `c` at the front of a text, and the text after it. -/
def charAt (c : Char) : List Char → Option (Unit × List Char)
  | c' :: r => if c' = c then some ((), r) else none
  | [] => none

/-- The blanks at the front of the text, which may be none. -/
def ws : Parse L Unit := token fun s => some ((), skipBlanks s)

def char (c : Char) : Parse L Unit := token (charAt c)

def word (w : List Char) : Parse L Unit := token fun s => (Header.dropWord w s).map ((), ·)

def wordIgnoringCase (w : List Char) : Parse L Unit :=
  token fun s => (Header.dropWordIgnoringCase w s).map ((), ·)

/-- An operator of the tier `t`, two-character operators before their one-character prefixes. -/
def operator (t : Tier) : Parse L BinOp := token t.operator

/-- A decimal literal that fits a signed word; a run of digits that does not fit is given back. -/
def literal : Parse L Int64 := token readLiteral?

/-- Runs `p` and, if it backtracks, goes back to where it began and answers `none`. -/
def opt (p : Parse L α) : Parse L (Option α) := fun i =>
  match p i with
  | some (.ok a, o) => some (.ok (some a), o)
  | some (.backtrack, o) => some (.ok none, { o with text := i.text })
  | some (.cut, o) => some (.cut, o)
  | none => none

/-- Runs `p` and, if it backtracks, runs `q` from where `p` began. -/
def orElse (p q : Parse L α) : Parse L α := fun i =>
  match p i with
  | some (.backtrack, o) => q { o with text := i.text }
  | r => r

def preceded (first : Parse L Unit) (p : Parse L α) : Parse L α := first >>= fun _ => p

def terminated (p : Parse L α) (last : Parse L Unit) : Parse L α := do
  let a ← p
  last
  pure a

/-- Takes one level. At the limit it takes none, sets the flag and cuts the reading. -/
def descend : Parse L Unit := fun i =>
  if h : i.nesting.depth < L then
    some (.ok (), { i with nesting := i.nesting.deeper h })
  else
    some (.cut, { i with nesting := { i.nesting with exceeded := true } })

/-- Runs `p` and puts the depth back to what it was when `p` began, however `p` ended. -/
def restoring (p : Parse L α) : Parse L α := fun i =>
  (p i).map fun (a, o) =>
    (a, { o with nesting := ⟨i.nesting.depth, o.nesting.exceeded, i.nesting.depth_le⟩ })

def nested (p : Parse L α) : Parse L α := restoring (descend >>= fun _ => p)

end Parse

open Parse

/-- The routines that read a formula. -/
inductive Routine where
  /-- A disjunction, then possibly `?`, a conditional, `:` and a conditional, the two branches
  one level deeper. -/
  | conditional
  /-- A chain of the tier `t`: its first operand and then its links, the depth put back at
  the end. -/
  | chain (t : Tier)
  /-- The links of a chain of tier `t` whose operands so far make `lhs`: each operator takes a
  level, which the chain keeps until it ends. -/
  | links (t : Tier) (lhs : Formula)
  /-- Blanks, then `!` and a unary formula one level deeper, or a primary formula. -/
  | unary
  /-- `n`, a literal, or a parenthesized formula, tried in this order. -/
  | primary
  /-- `(`, a conditional one level deeper, and `)`. -/
  | parenthesized

/-- The routine that reads what the goal of `Formula.step` reads. -/
def Routine.ofGoal : Goal → Routine
  | .conditional => .conditional
  | .chain t => .chain t
  | .links t lhs => .links t lhs
  | .unary => .unary
  | .primary => .primary

variable {L : Nat}

/-- Runs the routine with `fuel` nested calls left. -/
def Routine.run : Nat → Routine → Parse L Formula
  | 0, _ => fun _ => none
  | fuel + 1, .conditional => do
    let test ← Routine.run fuel (.chain .disjunction)
    match ← opt (preceded ws (char '?')) with
    | none => pure test
    | some () =>
      let ifTrue ← nested (Routine.run fuel .conditional)
      preceded ws (char ':')
      let ifFalse ← nested (Routine.run fuel .conditional)
      pure (.ternary test ifTrue ifFalse)
  | fuel + 1, .chain t => restoring do
    let lhs ← Routine.run fuel (.ofGoal t.operand)
    Routine.run fuel (.links t lhs)
  | fuel + 1, .links t lhs => do
    match ← opt (preceded ws (operator t)) with
    | none => pure lhs
    | some op =>
      descend
      let rhs ← Routine.run fuel (.ofGoal t.operand)
      Routine.run fuel (.links t (.binary op lhs rhs))
  | fuel + 1, .unary => do
    ws
    match ← opt (char '!') with
    | some () => Formula.not <$> nested (Routine.run fuel .unary)
    | none => Routine.run fuel .primary
  | fuel + 1, .primary =>
    orElse (preceded (char 'n') (pure .var))
      (orElse (Formula.num <$> literal) (Routine.run fuel .parenthesized))
  | fuel + 1, .parenthesized => do
    char '('
    let e ← nested (Routine.run fuel .conditional)
    preceded ws (char ')')
    pure e

/-- Where a reading starts: the whole text, at depth 0, with the flag down. -/
def start (limit : Nat) (s : List Char) : Input limit := ⟨s, ⟨0, false, Nat.zero_le limit⟩⟩

/-- Ends a reading of the text `s` that left `o` and answered `a`: a limit that was hit comes
first, then a value with nothing after it, then where and why the reading stopped. -/
def finish {α : Type} (s : List Char) (o : Input L) (a : Answer α) : Except ParseError α :=
  if o.nesting.exceeded then .error (.nestingTooDeep L)
  else
    match a, o.text with
    | .ok v, [] => .ok v
    | .ok _, c :: rest => .error (stoppedAt s (c :: rest) (.unexpected c))
    | _, rest => .error (stoppedAt s rest (failureDetail rest))

/-- Reads a whole formula with `fuel` nested calls: a conditional, then blanks. -/
def readFormula (fuel : Nat) (limits : Limits) (text : String) :
    Option (Except ParseError Formula) :=
  (terminated (Routine.run fuel .conditional) ws (start limits.maxDepth text.toList)).map
    fun (a, o) => finish text.toList o a

/-- The parts of a header: blanks and an optional label `plural-forms:`, then `nplurals`, `=`,
the count and `;`, then `plural`, `=` and the formula, then blanks, an optional `;` and blanks,
with blanks allowed between the parts. -/
def pluralForms (fuel : Nat) : Parse L (Int64 × Formula) := do
  ws
  let _ ← opt do
    wordIgnoringCase "plural-forms".toList
    ws
    char ':'
  ws
  word "nplurals".toList
  ws
  char '='
  ws
  let count ← literal
  ws
  char ';'
  ws
  word "plural".toList
  ws
  char '='
  let root ← Routine.run fuel .conditional
  ws
  let _ ← opt (char ';')
  ws
  pure (count, root)

/-- Reads a `Plural-Forms` header with `fuel` nested calls. -/
def readHeader (fuel : Nat) (limits : Limits) (text : String) : Option (Except HeaderError Rule) :=
  (pluralForms fuel (start limits.maxDepth text.toList)).map fun (a, o) =>
    match finish text.toList o a with
    | .ok (count, root) =>
      match Rule.make count root with
      | .ok rule => .ok rule
      | .error err => .error (.rule err)
    | .error e => .error (.parse e)

end Descent

end PluralForms
