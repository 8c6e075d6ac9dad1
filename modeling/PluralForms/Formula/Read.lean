import PluralForms.Formula.Basic
import PluralForms.Text.Position

/-!
# Reading a formula

The grammar, loosest first:

    conditional ::= or ("?" conditional ":" conditional)?
    or ::= and ("||" and)*           and ::= equality ("&&" equality)*
    equality ::= relational (("==" | "!=") relational)*
    relational ::= additive (("<=" | ">=" | "<" | ">") additive)*
    additive ::= multiplicative (("+" | "-") multiplicative)*
    multiplicative ::= unary (("*" | "/" | "%") unary)*
    unary ::= "!" unary | primary      primary ::= "n" | digits | "(" conditional ")"

with blanks allowed around every token. Binary operators group to the left, the conditional to
the right, and a literal must fit a signed 64-bit word.

A reading step reports one of three outcomes: a tree and the rest of the input, a failure
together with the place where reading stopped, or that the nesting limit was hit. The place of a
failure follows a fixed discipline: an optional part that does not match gives back what it
looked at (so blanks before a missing operator are not consumed), while a required token that
does not match leaves the blanks before it consumed. Reaching the limit ends the whole reading.

The nesting depth starts at 0 and is passed down, never returned, so every construct gives its
levels back when it ends. One level is taken by `(`, by `!`, by each branch of a conditional, and
by each operator of a chain, where the levels of one chain add up until the chain ends. A level
can only be taken while the depth is below the limit.

Every step consumes input before it recurses at the same or a looser level, so reading ends:
the measure is the length of the rest, then the level.
-/

namespace PluralForms

open Text

/-- Why a formula could not be read. -/
inductive Detail where
  | endOfInput
  | unexpected (c : Char)
  | literalTooLarge
  deriving DecidableEq, Repr

def Detail.text : Detail → String
  | .endOfInput => "unexpected end of input"
  | .unexpected c => "unexpected character: '" ++ c.toString ++ "'"
  | .literalTooLarge => "integer literal does not fit in 64 bits"

/-- Why reading a formula or a header failed. -/
inductive ParseError where
  /-- Reading stopped at `line`:`column` for the reason `detail`. -/
  | malformed (line column : Nat) (detail : Detail)
  /-- The formula nests deeper than the limit allows. -/
  | nestingTooDeep (maxDepth : Nat)
  deriving DecidableEq, Repr

def ParseError.message : ParseError → String
  | .malformed l c d => "syntax error at " ++ toString l ++ ":" ++ toString c ++ ": " ++ d.text
  | .nestingTooDeep m => "formula nesting exceeds the maximum depth of " ++ toString m

/-- Limits on reading. -/
structure Limits where
  /-- How deeply parentheses, negations, conditionals and operator chains may nest. -/
  maxDepth : Nat := 64
  deriving DecidableEq, Repr

namespace Formula

def digitsValue (ds : List Char) : Nat :=
  ds.foldl (fun acc c => acc * 10 + (c.toNat - '0'.toNat)) 0

/-- The largest value a literal may have, `2 ^ 63 - 1`. -/
def literalMax : Nat := 9223372036854775807

/-- Whether the digit run at the front of the text is there and too large for a literal. -/
def leadingLiteralTooLarge (s : List Char) : Bool :=
  let ds := s.takeWhile Char.isDigit
  !ds.isEmpty && decide (literalMax < digitsValue ds)

/-- A literal at the front of the text: a non-empty run of decimal digits whose value fits. -/
def readLiteral? (s : List Char) : Option (Int64 × List Char) :=
  let ds := s.takeWhile Char.isDigit
  if !ds.isEmpty && decide (digitsValue ds ≤ literalMax) then
    some (Int64.ofNat (digitsValue ds), s.dropWhile Char.isDigit)
  else none

theorem readLiteral?_suffix {s r : List Char} {v : Int64} (h : readLiteral? s = some (v, r)) :
    r <:+ s := by
  unfold readLiteral? at h
  dsimp only at h
  split at h
  · simp only [Option.some.injEq, Prod.mk.injEq] at h
    rw [← h.2]
    exact List.dropWhile_suffix _
  · cases h

/-- The tiers of binary operators, tightest first. -/
inductive Tier where
  | multiplicative | additive | relational | equality | conjunction | disjunction
  deriving DecidableEq, Repr

/-- An operator of the tier at the front of the text, and the text after it. Two-character
operators are tried before their one-character prefixes. -/
def Tier.operator : Tier → List Char → Option (BinOp × List Char)
  | .disjunction, '|' :: '|' :: r => some (.or, r)
  | .conjunction, '&' :: '&' :: r => some (.and, r)
  | .equality, '=' :: '=' :: r => some (.eq, r)
  | .equality, '!' :: '=' :: r => some (.ne, r)
  | .relational, '<' :: '=' :: r => some (.le, r)
  | .relational, '>' :: '=' :: r => some (.ge, r)
  | .relational, '<' :: r => some (.lt, r)
  | .relational, '>' :: r => some (.gt, r)
  | .additive, '+' :: r => some (.add, r)
  | .additive, '-' :: r => some (.sub, r)
  | .multiplicative, '*' :: r => some (.mul, r)
  | .multiplicative, '/' :: r => some (.div, r)
  | .multiplicative, '%' :: r => some (.rem, r)
  | _, _ => none

theorem Tier.operator_shorter {t : Tier} {s r : List Char} {op : BinOp}
    (h : t.operator s = some (op, r)) : r <:+ s ∧ r.length < s.length := by
  unfold Tier.operator at h
  split at h
  all_goals simp only [Option.some.injEq, Prod.mk.injEq, reduceCtorEq] at h
  all_goals obtain ⟨-, rfl⟩ := h
  all_goals first
    | exact ⟨(List.suffix_cons _ _).trans (List.suffix_cons _ _),
        by simp only [List.length_cons]; omega⟩
    | exact ⟨List.suffix_cons _ _, by simp only [List.length_cons]; omega⟩

/-- What a reading step is asked to read. -/
inductive Goal where
  | conditional
  | chain (t : Tier)
  /-- The rest of a chain of tier `t` whose operands so far make `lhs`. -/
  | links (t : Tier) (lhs : Formula)
  | unary
  | primary

/-- The goal that reads one operand of a chain of tier `t`. -/
def Tier.operand : Tier → Goal
  | .disjunction => .chain .conjunction
  | .conjunction => .chain .equality
  | .equality => .chain .relational
  | .relational => .chain .additive
  | .additive => .chain .multiplicative
  | .multiplicative => .unary

/-- Tightness of a tier, from 0 for the multiplicative operators. -/
def Tier.level : Tier → Nat
  | .multiplicative => 0
  | .additive => 1
  | .relational => 2
  | .equality => 3
  | .conjunction => 4
  | .disjunction => 5

/-- The order in which goals may call each other without consuming input. -/
def Goal.rank : Goal → Nat
  | .primary => 0
  | .unary => 1
  | .links t _ => 2 * t.level + 2
  | .chain t => 2 * t.level + 3
  | .conditional => 14

theorem Tier.operand_rank (t : Tier) : t.operand.rank = 2 * t.level + 1 := by
  cases t <;> rfl

/-- The outcome of one reading step on the text `s`. -/
inductive Reply (s : List Char) where
  /-- A tree was read; `rest` is what follows it. -/
  | ok (value : Formula) (rest : List Char) (h : rest <:+ s)
  /-- Reading failed and stopped before `rest`. -/
  | fail (rest : List Char) (h : rest <:+ s)
  /-- The nesting limit was reached. -/
  | tooDeep

/-- A reply about a suffix of `s` is a reply about `s`. -/
def Reply.widen {s t : List Char} (hs : s <:+ t) : Reply s → Reply t
  | .ok v r h => .ok v r (h.trans hs)
  | .fail r h => .fail r (h.trans hs)
  | .tooDeep => .tooDeep

/-- One reading step: reads `g` from the front of `s` at nesting depth `d` under the limit
`limit`. -/
def step (limit : Nat) (g : Goal) (d : Nat) (s : List Char) : Reply s :=
  match g with
  | .conditional =>
    match step limit (.chain .disjunction) d s with
    | .tooDeep => .tooDeep
    | .fail r h => .fail r h
    | .ok test r h =>
      match hq : skipBlanks r with
      | '?' :: r1 =>
        have h1 : r1 <:+ s :=
          ((List.suffix_cons _ _).trans (hq ▸ skipBlanks_suffix r)).trans h
        have : r1.length < s.length := by
          have h2 := (skipBlanks_suffix r).length_le
          have h3 := h.length_le
          rw [hq, List.length_cons] at h2
          omega
        if d < limit then
          match step limit .conditional (d + 1) r1 with
          | .tooDeep => .tooDeep
          | .fail r2 h2 => .fail r2 (h2.trans h1)
          | .ok yes r2 h2 =>
            match hc : skipBlanks r2 with
            | ':' :: r3 =>
              have h3 : r3 <:+ s :=
                ((List.suffix_cons _ _).trans (hc ▸ skipBlanks_suffix r2)).trans (h2.trans h1)
              have : r3.length < s.length := by
                have h4 := (skipBlanks_suffix r2).length_le
                have h5 := (h2.trans h1).length_le
                rw [hc, List.length_cons] at h4
                omega
              match step limit .conditional (d + 1) r3 with
              | .tooDeep => .tooDeep
              | .fail r4 h4 => .fail r4 (h4.trans h3)
              | .ok no r4 h4 => .ok (.ternary test yes no) r4 (h4.trans h3)
            | r3 => .fail r3 (hc ▸ (skipBlanks_suffix r2).trans (h2.trans h1))
        else .tooDeep
      | _ => .ok test r h
  | .chain t =>
    match step limit t.operand d s with
    | .tooDeep => .tooDeep
    | .fail r h => .fail r h
    | .ok lhs r h =>
      have : r.length ≤ s.length := h.length_le
      (step limit (.links t lhs) d r).widen h
  | .links t lhs =>
    match ho : t.operator (skipBlanks s) with
    | none => .ok lhs s (List.suffix_refl s)
    | some (op, r1) =>
      have h1 : r1 <:+ s := (Tier.operator_shorter ho).1.trans (skipBlanks_suffix s)
      have : r1.length < s.length :=
        Nat.lt_of_lt_of_le (Tier.operator_shorter ho).2 (skipBlanks_length_le s)
      if d < limit then
        match step limit t.operand (d + 1) r1 with
        | .tooDeep => .tooDeep
        | .fail r2 h2 => .fail r2 (h2.trans h1)
        | .ok rhs r2 h2 =>
          have : r2.length < s.length := Nat.lt_of_le_of_lt h2.length_le this
          (step limit (.links t (.binary op lhs rhs)) (d + 1) r2).widen (h2.trans h1)
      else .tooDeep
  | .unary =>
    match hb : skipBlanks s with
    | '!' :: r =>
      have h1 : r <:+ s := (List.suffix_cons _ _).trans (hb ▸ skipBlanks_suffix s)
      have : r.length < s.length := by
        have h2 := skipBlanks_length_le s
        rw [hb, List.length_cons] at h2
        omega
      if d < limit then
        match step limit .unary (d + 1) r with
        | .tooDeep => .tooDeep
        | .fail r2 h2 => .fail r2 (h2.trans h1)
        | .ok e r2 h2 => .ok (.not e) r2 (h2.trans h1)
      else .tooDeep
    | _ =>
      have : (skipBlanks s).length ≤ s.length := skipBlanks_length_le s
      (step limit .primary d (skipBlanks s)).widen (skipBlanks_suffix s)
  | .primary =>
    match s with
    | 'n' :: r => .ok .var r (List.suffix_cons _ _)
    | '(' :: r =>
      if d < limit then
        match step limit .conditional (d + 1) r with
        | .tooDeep => .tooDeep
        | .fail r2 h2 => .fail r2 (h2.trans (List.suffix_cons _ _))
        | .ok e r2 h2 =>
          match hc : skipBlanks r2 with
          | ')' :: r3 =>
            .ok e r3 ((List.suffix_cons _ _).trans
              ((hc ▸ skipBlanks_suffix r2).trans (h2.trans (List.suffix_cons _ _))))
          | r3 => .fail r3 (hc ▸ (skipBlanks_suffix r2).trans (h2.trans (List.suffix_cons _ _)))
      else .tooDeep
    | s =>
      match hl : readLiteral? s with
      | some (v, r) => .ok (.num v) r (readLiteral?_suffix hl)
      | none => .fail s (List.suffix_refl s)
termination_by s.length * 16 + g.rank
decreasing_by
  all_goals try simp only [Tier.operand_rank]
  all_goals simp only [Goal.rank, Tier.level, List.length_cons]
  all_goals omega

/-- The error for a reading of `s` that stopped before `rest`. -/
def stoppedAt (s rest : List Char) (detail : Detail) : ParseError :=
  let p := Position.after (consumedBefore s rest)
  .malformed p.line p.column detail

/-- Why reading failed before `rest`: the end of the text, a literal too large for a word, or
the character found there. -/
def failureDetail (rest : List Char) : Detail :=
  match rest with
  | [] => .endOfInput
  | c :: _ => if leadingLiteralTooLarge rest then .literalTooLarge else .unexpected c

/-- Reads a whole formula: a conditional, then blanks to the end of the text. -/
def read (limits : Limits) (text : String) : Except ParseError Formula :=
  let s := text.toList
  match step limits.maxDepth .conditional 0 s with
  | .tooDeep => .error (.nestingTooDeep limits.maxDepth)
  | .fail r _ => .error (stoppedAt s r (failureDetail r))
  | .ok e r _ =>
    match skipBlanks r with
    | [] => .ok e
    | c :: rest => .error (stoppedAt s (c :: rest) (.unexpected c))

end Formula

end PluralForms
