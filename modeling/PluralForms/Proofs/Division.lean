import Mathlib
import PluralForms.Proofs.Evaluation

/-!
# Division and remainder

A formula divides as the machine does: `/` truncates toward zero and `%` takes the sign of the
dividend, both on 64-bit words, while `*` and `+` wrap. The quotient of two operand values is
therefore their integer quotient reduced into a word, which differs from the integer quotient
only for the least word divided by `-1`; the remainder never wraps. Quotient and remainder
satisfy the division identity `(a / b) * b + a % b = a` in words, the one overflowing quotient
included, because reduction into a word commutes with `*` and `+` (`Int64.div_mul_add_mod`).

A zero divisor is reported as a division by zero that names the operator of its own node, once
both operands have been evaluated (`eval_div_rem`).
-/

namespace PluralForms

/-- Truncating quotient and remainder put the dividend back together in words, whatever the
divisor: reduction into a word commutes with `*` and `+`, and over the integers the identity is
`Int.tdiv_mul_add_tmod`. -/
theorem Int64.div_mul_add_mod (x y : Int64) : x / y * y + x % y = x := by
  apply Int64.toInt_inj.1
  rw [Int64.toInt_add, Int64.toInt_mul, Int64.toInt_div, Int64.toInt_mod, Int.bmod_mul_bmod,
    Int.bmod_add_bmod, Int.tdiv_mul_add_tmod]
  exact Int64.toInt_bmod x

theorem Int.tmod_eq_zero_or_sign (x y : Int) : x.tmod y = 0 ∨ (x.tmod y).sign = x.sign := by
  have hs := Int.sign_tmod x y
  split_ifs at hs
  · exact .inl (Int.sign_eq_zero_iff_zero.1 hs)
  · exact .inr hs

namespace Formula

variable {a b : Formula} {n x y : Int64}

/-- An operator that its left operand does not settle is applied to the values of both
operands. -/
theorem eval_binary_of_ok {op : BinOp} (hs : op.shortcut x = none) (ha : a.eval n = .ok x)
    (hb : b.eval n = .ok y) : (binary op a b).eval n = op.apply x y := by
  rw [eval_binary, ha]
  simp only [Except.bind, hs, hb]

/-- Division and remainder of formulas, once both operands have a value: for a divisor that is
not zero, the quotient is the integer quotient truncated toward zero and reduced into a word,
the remainder is the truncating remainder, smaller than the divisor in magnitude and zero or of
the sign of the dividend, and `(a / b) * b + a % b` gives back the value of `a`; a zero divisor
makes both `/` and `%` fail with a division by zero that names the node's own operator. -/
theorem eval_div_rem (ha : a.eval n = .ok x) (hb : b.eval n = .ok y) :
    (y ≠ 0 →
      (binary .add (binary .mul (binary .div a b) b) (binary .rem a b)).eval n = .ok x ∧
      (∃ q, (binary .div a b).eval n = .ok q ∧ q.toInt = (x.toInt.tdiv y.toInt).bmod (2 ^ 64)) ∧
      ∃ r, (binary .rem a b).eval n = .ok r ∧ r.toInt = x.toInt.tmod y.toInt ∧
        r.toInt.natAbs < y.toInt.natAbs ∧ (r.toInt = 0 ∨ r.toInt.sign = x.toInt.sign)) ∧
    (y = 0 → (binary .div a b).eval n = .error (.divisionByZero .div) ∧
      (binary .rem a b).eval n = .error (.divisionByZero .rem)) := by
  have hdiv : (binary .div a b).eval n = BinOp.apply .div x y := eval_binary_of_ok rfl ha hb
  have hrem : (binary .rem a b).eval n = BinOp.apply .rem x y := eval_binary_of_ok rfl ha hb
  refine ⟨fun hy => ?_, fun hy => ?_⟩
  · have hq : (binary .div a b).eval n = .ok (x / y) := by rw [hdiv, BinOp.apply, if_neg hy]
    have hr : (binary .rem a b).eval n = .ok (x % y) := by rw [hrem, BinOp.apply, if_neg hy]
    have hy' : y.toInt ≠ 0 := fun h => hy (Int64.toInt_inj.1 (by rw [h, Int64.toInt_zero]))
    refine ⟨?_, ⟨x / y, hq, Int64.toInt_div x y⟩, x % y, hr, Int64.toInt_mod x y, ?_, ?_⟩
    · have hm : (binary .mul (binary .div a b) b).eval n = .ok (x / y * y) :=
        eval_binary_of_ok rfl hq hb
      rw [eval_binary_of_ok rfl hm hr, BinOp.apply, Int64.div_mul_add_mod]
    · rw [Int64.toInt_mod, Int.natAbs_tmod]
      exact Nat.mod_lt _ (Int.natAbs_pos.2 hy')
    · rw [Int64.toInt_mod]
      exact Int.tmod_eq_zero_or_sign _ _
  · subst hy
    exact ⟨by rw [hdiv]; rfl, by rw [hrem]; rfl⟩

/-- The least word divided by `-1`: the quotient wraps back to the least word, the remainder is
0, and the identity holds all the same. -/
theorem eval_div_rem_least :
    var.eval Int64.minValue = .ok Int64.minValue ∧ (num (-1)).eval Int64.minValue = .ok (-1) ∧
    (((-1 : Int64) ≠ 0 →
      (binary .add (binary .mul (binary .div var (num (-1))) (num (-1)))
          (binary .rem var (num (-1)))).eval Int64.minValue = .ok Int64.minValue ∧
      (∃ q, (binary .div var (num (-1))).eval Int64.minValue = .ok q ∧
        q.toInt = (Int64.minValue.toInt.tdiv (-1 : Int64).toInt).bmod (2 ^ 64)) ∧
      ∃ r, (binary .rem var (num (-1))).eval Int64.minValue = .ok r ∧
        r.toInt = Int64.minValue.toInt.tmod (-1 : Int64).toInt ∧
        r.toInt.natAbs < (-1 : Int64).toInt.natAbs ∧
        (r.toInt = 0 ∨ r.toInt.sign = Int64.minValue.toInt.sign)) ∧
    ((-1 : Int64) = 0 →
      (binary .div var (num (-1))).eval Int64.minValue = .error (.divisionByZero .div) ∧
      (binary .rem var (num (-1))).eval Int64.minValue = .error (.divisionByZero .rem))) :=
  ⟨rfl, rfl, eval_div_rem rfl rfl⟩

example : (binary .div var (num (-1))).eval Int64.minValue = .ok Int64.minValue := by decide

end Formula

end PluralForms
