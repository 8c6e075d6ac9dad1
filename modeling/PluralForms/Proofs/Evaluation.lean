import Mathlib
import PluralForms.Formula.Eval

/-!
# What evaluation looks at

`eval` works from the root down and stops at the first operand that settles the result: the
right operand of `&&` after a zero and of `||` after a nonzero value, the branch of `?:` that the
test rules out, and everything after an operand that fails. A one-hole context (`Context`) names
a position in a tree, and `Context.Reaches n C` says that evaluating at `n` gets there.

The two results are that evaluation depends on what fills the hole exactly when it reaches the
hole (`eval_short_circuit`, first part; an error in a reached hole surfaces unchanged), and that
skipping operands only ever skips failures: wherever the eager evaluator, which evaluates every
operand, returns a value, `eval` returns the same one.

Every binary operator is read through one equation (`eval_binary`): evaluate the left operand,
stop if it settles the operator (`BinOp.shortcut`), and otherwise apply the operator to both
operands. The connectives differ from the other operators only in their shortcut.

The last section is about what the arithmetic computes. `+`, `-` and `*` wrap around in 64 bits,
and reducing an integer into a word commutes with all three, so a formula built from them alone
evaluates to its value over the integers reduced once at the end (`eval_wraps`), however often
its intermediate results overflow.
-/

namespace PluralForms

namespace Except

variable {ε α β : Type}

theorem bind_eq_ok {x : Except ε α} {f : α → Except ε β} {b : β} :
    x.bind f = .ok b ↔ ∃ a, x = .ok a ∧ f a = .ok b := by
  cases x <;> simp [Except.bind]

theorem map_eq_ok {x : Except ε α} {f : α → β} {b : β} :
    x.map f = .ok b ↔ ∃ a, x = .ok a ∧ f a = b := by
  cases x <;> simp [Except.map]

theorem map_eq_bind (x : Except ε α) (f : α → β) : x.map f = x.bind fun a => .ok (f a) := by
  cases x <;> rfl

end Except

namespace BinOp

/-- The value an operator settles on from its left operand alone: a zero settles `&&` as 0 and a
nonzero value settles `||` as 1. No other operator is settled before its right operand. -/
def shortcut : BinOp → Int64 → Option Int64
  | .and, a => if a = 0 then some 0 else none
  | .or, a => if a ≠ 0 then some 1 else none
  | _, _ => none

theorem apply_of_shortcut {op : BinOp} {a v : Int64} (h : op.shortcut a = some v) (b : Int64) :
    op.apply a b = .ok v := by
  cases op <;> by_cases ha : a = 0 <;> simp_all [shortcut, apply, Formula.truth]

end BinOp

namespace Formula

/-- Every binary operator evaluates its left operand first; then either that operand settles the
operator or the right operand is evaluated and the operator applied. -/
theorem eval_binary (n : Int64) (op : BinOp) (l r : Formula) :
    (binary op l r).eval n = (l.eval n).bind fun a =>
      match op.shortcut a with
      | some v => .ok v
      | none => (r.eval n).bind (op.apply a) := by
  cases op
  case and | or =>
    simp only [eval, BinOp.shortcut, Except.map_eq_bind]
    refine congrArg (Except.bind (l.eval n)) (funext fun a => ?_)
    split_ifs with ha
    · rfl
    · exact congrArg (Except.bind (r.eval n)) (funext fun b => by simp [BinOp.apply, ha])
  all_goals rfl

/-- A formula with one hole: the path from the root to one position of a tree, with the subtrees
that stand beside the path. -/
inductive Context where
  | hole
  | not (c : Context)
  | left (op : BinOp) (c : Context) (rhs : Formula)
  | right (op : BinOp) (lhs : Formula) (c : Context)
  | test (c : Context) (ifTrue ifFalse : Formula)
  | ifTrue (test : Formula) (c : Context) (ifFalse : Formula)
  | ifFalse (test ifTrue : Formula) (c : Context)
  deriving DecidableEq, Repr

namespace Context

/-- The formula that a context makes around `x`. -/
def fill (x : Formula) : Context → Formula
  | hole => x
  | not c => .not (c.fill x)
  | left op c r => .binary op (c.fill x) r
  | right op l c => .binary op l (c.fill x)
  | test c t f => .ternary (c.fill x) t f
  | ifTrue b c f => .ternary b (c.fill x) f
  | ifFalse b t c => .ternary b t (c.fill x)

/- The equation lemmas of `fill` and of `eval` are generated here, once, before the proofs below
unfold them; otherwise every proof checked in parallel waits for the first one to make them. -/
section
attribute [local simp] fill Formula.eval
end

/-- Evaluating at `n` gets to the hole: every left operand and every test beside the path
succeeds and sends evaluation on towards the hole. -/
def Reaches (n : Int64) : Context → Prop
  | hole => True
  | not c | left _ c _ | test c _ _ => c.Reaches n
  | right op l c => (∃ a, l.eval n = .ok a ∧ op.shortcut a = none) ∧ c.Reaches n
  | ifTrue b c _ => (∃ v, b.eval n = .ok v ∧ v ≠ 0) ∧ c.Reaches n
  | ifFalse b _ c => b.eval n = .ok 0 ∧ c.Reaches n

variable {n : Int64}

theorem eval_fill_of_not_reaches {C : Context} (h : ¬ C.Reaches n) (x y : Formula) :
    (C.fill x).eval n = (C.fill y).eval n := by
  induction C with
  | hole => exact absurd trivial h
  | not c ih => simp only [fill, eval, ih h]
  | left op c r ih => rw [fill, fill, eval_binary, eval_binary, ih h]
  | test c t f ih => simp only [fill, eval, ih h]
  | right op l c ih =>
    rw [fill, fill, eval_binary, eval_binary]
    cases hl : l.eval n with
    | error err => rfl
    | ok a =>
      cases hs : op.shortcut a with
      | some v => simp only [Except.bind, hs]
      | none =>
        simp only [Except.bind, hs]
        rw [ih fun hc => h ⟨⟨a, hl, hs⟩, hc⟩]
  | ifTrue b c f ih =>
    simp only [fill, eval]
    cases hb : b.eval n with
    | error err => rfl
    | ok v =>
      by_cases hv : v = 0
      · simp [Except.bind, hv]
      · simp only [Except.bind, if_pos hv]
        exact ih fun hc => h ⟨⟨v, hb, hv⟩, hc⟩
  | ifFalse b t c ih =>
    simp only [fill, eval]
    cases hb : b.eval n with
    | error err => rfl
    | ok v =>
      by_cases hv : v = 0
      · subst hv
        simp only [Except.bind, ne_eq, not_true_eq_false, if_false]
        exact ih fun hc => h ⟨hb, hc⟩
      · simp [Except.bind, hv]

theorem eval_fill_of_reaches {C : Context} (h : C.Reaches n) {x : Formula} {err : EvalError}
    (hx : x.eval n = .error err) : (C.fill x).eval n = .error err := by
  induction C with
  | hole => exact hx
  | not c ih => simp [fill, eval, ih h, Except.map]
  | left op c r ih => rw [fill, eval_binary, ih h]; rfl
  | test c t f ih => simp [fill, eval, ih h, Except.bind]
  | right op l c ih =>
    obtain ⟨⟨a, hl, hs⟩, hc⟩ := h
    rw [fill, eval_binary, hl]
    simp [Except.bind, hs, ih hc]
  | ifTrue b c f ih =>
    obtain ⟨⟨v, hb, hv⟩, hc⟩ := h
    simp [fill, eval, hb, hv, ih hc, Except.bind]
  | ifFalse b t c ih =>
    obtain ⟨hb, hc⟩ := h
    simp [fill, eval, hb, ih hc, Except.bind]

/-- Evaluation is compositional: a formula's value at `n` depends on a subtree only through the
subtree's own value at `n`. -/
theorem eval_fill_congr (C : Context) {x y : Formula} (hxy : x.eval n = y.eval n) :
    (C.fill x).eval n = (C.fill y).eval n := by
  induction C with
  | hole => exact hxy
  | not c ih | test c _ _ ih => simp only [fill, eval, ih]
  | left op c r ih | right op l c ih => simp only [fill, eval_binary, ih]
  | ifTrue b c f ih | ifFalse b t c ih => simp only [fill, eval, ih]

/-- Wherever it stands, the right operand of a connective that its left operand settles is never
looked at: the right operand of `&&` after a zero and of `||` after a nonzero value. -/
theorem eval_fill_settled (C : Context) {op : BinOp} {l : Formula} {a v : Int64}
    (hl : l.eval n = .ok a) (hs : op.shortcut a = some v) (r r' : Formula) :
    (C.fill (.binary op l r)).eval n = (C.fill (.binary op l r')).eval n :=
  eval_fill_congr C (by simp [eval_binary, hl, hs, Except.bind])

theorem eval_fill_untaken (C : Context) {b : Formula} {v : Int64} (hb : b.eval n = .ok v)
    (t t' f f' : Formula) :
    (v ≠ 0 → (C.fill (.ternary b t f)).eval n = (C.fill (.ternary b t f')).eval n) ∧
    (v = 0 → (C.fill (.ternary b t f)).eval n = (C.fill (.ternary b t' f)).eval n) :=
  ⟨fun hv => eval_fill_congr C (by simp [eval, hb, hv, Except.bind]),
    fun hv => eval_fill_congr C (by simp [eval, hb, hv, Except.bind])⟩

end Context

/-- Skipping operands never changes a value: wherever evaluating every operand gives a value,
evaluating only the operands that decide the result gives the same value. -/
theorem eval_of_evalEager {n : Int64} {e : Formula} {v : Int64} (h : e.evalEager n = .ok v) :
    e.eval n = .ok v := by
  induction e generalizing v with
  | num _ | var => exact h
  | not e ih =>
    obtain ⟨u, hu, rfl⟩ := Except.map_eq_ok.1 h
    simp [eval, ih hu, Except.map]
  | binary op l r ihl ihr =>
    obtain ⟨a, ha, h⟩ := Except.bind_eq_ok.1 h
    obtain ⟨b, hb, h⟩ := Except.bind_eq_ok.1 h
    rw [eval_binary, ihl ha]
    cases hs : op.shortcut a with
    | some s =>
      rw [BinOp.apply_of_shortcut hs b] at h
      simpa [Except.bind, hs] using h
    | none => simp [Except.bind, hs, ihr hb, h]
  | ternary c t f ihc iht ihf =>
    obtain ⟨u, hu, h⟩ := Except.bind_eq_ok.1 h
    obtain ⟨x, hx, h⟩ := Except.bind_eq_ok.1 h
    obtain ⟨y, hy, rfl⟩ := Except.map_eq_ok.1 h
    simp only [eval, ihc hu, Except.bind]
    split_ifs
    · exact iht hx
    · exact ihf hy

/-- The refinement is strict: `!(0 && 1/0) || 1/0` has a value, though evaluating every operand
divides by zero. -/
example :
    let e := binary .or (.not (.binary .and (.num 0) (.binary .div (.num 1) (.num 0))))
      (.binary .div (.num 1) (.num 0))
    e.evalEager 0 = .error (.divisionByZero .div) ∧ e.eval 0 = .ok 1 :=
  ⟨rfl, rfl⟩

/-- Evaluation depends on the tree in a hole exactly when it reaches the hole, and where the
eager evaluator has a value, evaluation has the same one. -/
theorem eval_short_circuit (n : Int64) :
    (∀ C : Context, (∀ x y, (C.fill x).eval n = (C.fill y).eval n) ↔ ¬ C.Reaches n) ∧
    (∀ (e : Formula) (v : Int64), e.evalEager n = .ok v → e.eval n = .ok v) := by
  refine ⟨fun C => ⟨fun h hr => ?_, fun h => Context.eval_fill_of_not_reaches h⟩,
    fun _ _ => eval_of_evalEager⟩
  have hdiv : (binary .div (.num 0) (.num 0)).eval n = .error (.divisionByZero .div) := by
    simp [eval, BinOp.apply, Except.bind]
  have hrem : (binary .rem (.num 0) (.num 0)).eval n = .error (.divisionByZero .rem) := by
    simp [eval, BinOp.apply, Except.bind]
  have key := h (.binary .div (.num 0) (.num 0)) (.binary .rem (.num 0) (.num 0))
  rw [Context.eval_fill_of_reaches hr hdiv, Context.eval_fill_of_reaches hr hrem] at key
  simp at key

end Formula

/-! ### Wrapping arithmetic -/

namespace BinOp

/-- The operators of a ring: `+`, `-` and `*`. -/
def isRing : BinOp → Bool
  | .add | .sub | .mul => true
  | _ => false

/-- A ring operator over the integers, where nothing wraps; the other operators give 0. -/
def applyInt : BinOp → Int → Int → Int
  | .add, a, b => a + b
  | .sub, a, b => a - b
  | .mul, a, b => a * b
  | _, _, _ => 0

/-- On words, a ring operator is its integer counterpart reduced into a word: reduction modulo
`2 ^ 64` is a ring homomorphism. -/
theorem apply_ofInt {op : BinOp} (h : op.isRing) (a b : Int) :
    op.apply (Int64.ofInt a) (Int64.ofInt b) = .ok (Int64.ofInt (op.applyInt a b)) := by
  cases op <;> simp_all [isRing, apply, applyInt]

theorem shortcut_of_isRing {op : BinOp} (h : op.isRing) (a : Int64) :
    op.shortcut a = none := by
  cases op <;> simp_all [isRing, shortcut]

end BinOp

namespace Formula

/-- Formulas built from `n`, literals, `+`, `-` and `*` alone: polynomials in `n`. -/
inductive Polynomial : Formula → Prop
  | num (v : Int64) : Polynomial (.num v)
  | var : Polynomial .var
  | ring {op : BinOp} {l r : Formula} : op.isRing → Polynomial l → Polynomial r →
      Polynomial (.binary op l r)

/-- The value of a formula at `n` over the integers, where `+`, `-` and `*` never wrap. It is
meant for the formulas of `Polynomial`: any other operator counts as 0. -/
def intValue (n : Int) : Formula → Int
  | .num v => v.toInt
  | .var => n
  | .binary op l r => op.applyInt (l.intValue n) (r.intValue n)
  | .not _ | .ternary .. => 0

/-- A polynomial formula evaluates, without error, to the word of its value over the integers.
By induction on the formula, one ring operator at a time (`BinOp.apply_ofInt`). -/
theorem eval_polynomial {e : Formula} (he : e.Polynomial) (n : Int64) :
    e.eval n = .ok (Int64.ofInt (e.intValue n.toInt)) := by
  induction he with
  | num v => rw [intValue, Int64.ofInt_toInt]; rfl
  | var => rw [intValue, Int64.ofInt_toInt]; rfl
  | ring hop _ _ ihl ihr =>
    rw [eval_binary, ihl, intValue]
    simp only [Except.bind, BinOp.shortcut_of_isRing hop, ihr, BinOp.apply_ofInt hop]

/-- Wrapping arithmetic: a formula built from `n`, literals, `+`, `-` and `*` evaluates at every
`n` to its value over the integers reduced modulo `2 ^ 64` into `[-2 ^ 63, 2 ^ 63)`; a value
that fits a word comes out exactly, whatever overflows happen on the way. -/
theorem eval_wraps {e : Formula} (he : e.Polynomial) (n : Int64) :
    ∃ v, e.eval n = .ok v ∧ v.toInt = (e.intValue n.toInt).bmod (2 ^ 64) ∧
      (-2 ^ 63 ≤ e.intValue n.toInt → e.intValue n.toInt < 2 ^ 63 →
        v.toInt = e.intValue n.toInt) :=
  ⟨_, eval_polynomial he n, Int64.toInt_ofInt,
    fun h₁ h₂ => Int64.toInt_ofInt_of_le h₁ h₂⟩

/-- At the largest word, `n + n` overflows in `n + n - n`, and the result is `n` again. -/
theorem eval_wraps_double :
    (binary .sub (binary .add var var) var).Polynomial ∧
      ∃ v, (binary .sub (binary .add var var) var).eval 9223372036854775807 = .ok v ∧
        v.toInt =
          ((binary .sub (binary .add var var) var).intValue 9223372036854775807).bmod (2 ^ 64) ∧
        (-2 ^ 63 ≤ (binary .sub (binary .add var var) var).intValue 9223372036854775807 →
          (binary .sub (binary .add var var) var).intValue 9223372036854775807 < 2 ^ 63 →
          v.toInt = (binary .sub (binary .add var var) var).intValue 9223372036854775807) :=
  have h : (binary .sub (binary .add var var) var).Polynomial :=
    .ring rfl (.ring rfl .var .var) .var
  ⟨h, eval_wraps h 9223372036854775807⟩

/-- Past the largest word, `n + 1` wraps to the least one. -/
example : (binary .add var (num 1)).eval 9223372036854775807 = .ok (-9223372036854775808) := by
  decide

end Formula

end PluralForms
