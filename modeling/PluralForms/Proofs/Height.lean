import Mathlib
import PluralForms.Proofs.Printing

/-!
# How tall an accepted tree can be

The nesting limit bounds the depth of the reading, not the height of the tree it returns. The
first operand of a chain and the test of a conditional are read at the depth where they start,
so with `m` levels left a conditional over six chains of `m` links each stands `6 m + 1` nodes
above a unary formula, which with one level fewer is a parenthesised conditional again. With a
limit of `L` the tree is therefore at most `3 L ^ 2 + 4 L + 1` operator nodes tall, and
`tallest L` reaches that height for every `L ≥ 1`.

The bound is proved like soundness: each goal has a bound in the levels it has left
(`Goal.heightBound`), each step keeps it, and an induction along the reader's measure joins the
steps.
-/

namespace PluralForms

namespace Formula

open Text

/- The equation lemmas of `opHeight` are generated here, once, before the proofs below unfold
it; otherwise every proof checked in parallel waits for the first one to make them. -/
section
attribute [local simp] opHeight
end

section Bounds

/-- The height of the tallest conditional that can be read with `m` levels left. -/
def condHeight : Nat → Nat
  | 0 => 1
  | m + 1 => condHeight m + 6 * m + 7

/-- The height of the tallest unary formula that can be read with `m` levels left: a
parenthesised conditional, read with one level fewer. -/
def unaryHeight : Nat → Nat
  | 0 => 0
  | m + 1 => condHeight m

/-- The height of the tallest operand of a chain of tier `t` with `m` levels left: `m` links on
each tighter tier over a unary formula. -/
def operandHeight (t : Tier) (m : Nat) : Nat :=
  t.level * m + unaryHeight m

/-- The height of the tree a goal reads with `m` levels left; the rest of a chain adds to the
tree built so far, its operands being read one level down. -/
def Goal.heightBound : Goal → Nat → Nat
  | .conditional, m => condHeight m
  | .chain t, m => operandHeight t m + m
  | .links t lhs, m => max lhs.opHeight (operandHeight t (m - 1)) + m
  | .unary, m | .primary, m => unaryHeight m

/- The equation lemmas of these heights are generated here, once, before the proofs below unfold
them; otherwise every proof checked in parallel waits for the first one to make them. -/
section
attribute [local simp] condHeight unaryHeight
end

theorem condHeight_eq (m : Nat) : condHeight m = 6 * m + unaryHeight m + 1 := by
  cases m with
  | zero => rfl
  | succ m =>
    simp only [condHeight, unaryHeight]
    omega

theorem condHeight_closed (m : Nat) : condHeight m = 3 * m ^ 2 + 4 * m + 1 := by
  induction m with
  | zero => rfl
  | succ m ih =>
    rw [condHeight, ih]
    ring

theorem condHeight_lt_succ (m : Nat) : condHeight m < condHeight (m + 1) := by
  simp only [condHeight]
  omega

theorem unaryHeight_succ (m : Nat) : unaryHeight m < unaryHeight (m + 1) := by
  simp only [unaryHeight, condHeight_eq m]
  omega

theorem operandHeight_mono (t : Tier) {m m' : Nat} (h : m ≤ m') :
    operandHeight t m ≤ operandHeight t m' := by
  have hu : unaryHeight m ≤ unaryHeight m' := by
    induction h with
    | refl => exact le_refl _
    | step _ ih => exact ih.trans (unaryHeight_succ _).le
  exact Nat.add_le_add (Nat.mul_le_mul_left _ h) hu

theorem Tier.operand_heightBound (t : Tier) (m : Nat) :
    t.operand.heightBound m = operandHeight t m := by
  rcases Tier.operand_cases t with ⟨ho, h0⟩ | ⟨t', ho, hl⟩
  · simp [ho, h0, Goal.heightBound, operandHeight]
  · simp only [ho, Goal.heightBound, operandHeight, ← hl, Nat.succ_mul]
    omega

end Bounds

section Steps

/-- Every tree a successful reading of `g` from `s` returns, at any depth, is within the bound
of the levels left. -/
def HeightWithin (L : Nat) (g : Goal) (s : List Char) : Prop :=
  ∀ d e r, (step L g d s).outcome = .ok e r → e.opHeight ≤ g.heightBound (L - d)

variable {L : Nat}

theorem height_conditional {s : List Char} (hor : HeightWithin L (.chain .disjunction) s)
    (hcond : ∀ s', s'.length < s.length → HeightWithin L .conditional s') :
    HeightWithin L .conditional s := by
  intro d e r h
  have hC := condHeight_eq (L - d)
  rcases outcome_conditional_eq_ok h with hc | ⟨c, y, n, r₀, r₁, r₂, r₃, hc, hq, hd, hy, hq', hn, rfl⟩
  · have hc' := hor d e r hc
    simp only [Goal.heightBound, operandHeight, Tier.level] at hc' ⊢
    omega
  · have hc' := hor d c r₀ hc
    have hr₀ := (suffix_of_outcome hc).length_le
    have h₁ := length_lt_of_skipBlanks_eq_cons hq
    have hy' := hcond r₁ (by omega) (d + 1) y r₂ hy
    have h₂ := (suffix_of_outcome hy).length_le
    have h₃ := length_lt_of_skipBlanks_eq_cons hq'
    have hn' := hcond r₃ (by omega) (d + 1) n r hn
    have hlt := condHeight_lt_succ (L - (d + 1))
    rw [show L - (d + 1) + 1 = L - d by omega] at hlt
    simp only [Goal.heightBound, operandHeight, Tier.level, opHeight] at hc' hy' hn' ⊢
    omega

theorem height_chain {t : Tier} {s : List Char} (hop : HeightWithin L t.operand s)
    (hlinks : ∀ s', s'.length ≤ s.length → ∀ lhs, HeightWithin L (.links t lhs) s') :
    HeightWithin L (.chain t) s := by
  intro d e r h
  rw [outcome_chain] at h
  obtain ⟨lhs, r₀, hl, h⟩ := Outcome.bind_eq_ok.1 h
  have hl' := hop d lhs r₀ hl
  have he := hlinks r₀ (suffix_of_outcome hl).length_le lhs d e r h
  have hmono := operandHeight_mono t (Nat.sub_le (L - d) 1)
  rw [Tier.operand_heightBound] at hl'
  simp only [Goal.heightBound] at he ⊢
  omega

theorem height_links {t : Tier} {lhs : Formula} {s : List Char}
    (hop : ∀ s', s'.length < s.length → HeightWithin L t.operand s')
    (hlinks : ∀ s', s'.length < s.length → ∀ lhs', HeightWithin L (.links t lhs') s') :
    HeightWithin L (.links t lhs) s := by
  intro d e r h
  simp only [Goal.heightBound]
  cases ho : t.operator (skipBlanks s) with
  | none =>
    rw [outcome_links_none L d lhs ho, Outcome.ok.injEq] at h
    obtain ⟨rfl, rfl⟩ := h
    omega
  | some p =>
    obtain ⟨op, r₁⟩ := p
    have h₁ := length_lt_of_operator ho
    obtain ⟨hd, rhs, r₂, hrhs, h⟩ := outcome_links_some_eq_ok ho h
    have hrhs' := hop r₁ h₁ (d + 1) rhs r₂ hrhs
    have h₂ : r₂.length < s.length :=
      Nat.lt_of_le_of_lt (suffix_of_outcome hrhs).length_le h₁
    have he := hlinks r₂ h₂ _ (d + 1) e r h
    have hmono := operandHeight_mono t (show L - (d + 1) - 1 ≤ L - (d + 1) by omega)
    rw [Tier.operand_heightBound] at hrhs'
    rw [show L - (d + 1) = L - d - 1 by omega] at hrhs' he hmono
    simp only [Goal.heightBound, opHeight] at he
    omega

theorem height_unary {s : List Char}
    (hun : ∀ s', s'.length < s.length → HeightWithin L .unary s')
    (hprim : ∀ s', s'.length ≤ s.length → HeightWithin L .primary s') :
    HeightWithin L .unary s := by
  intro d e r h
  by_cases hbang : ∃ r₁, skipBlanks s = '!' :: r₁
  · obtain ⟨r₁, hr₁⟩ := hbang
    obtain ⟨hd, e', he', rfl⟩ := outcome_unary_bang_eq_ok hr₁ h
    have he'' := hun r₁ (length_lt_of_skipBlanks_eq_cons hr₁) (d + 1) e' r he'
    have hlt := unaryHeight_succ (L - (d + 1))
    rw [show L - (d + 1) + 1 = L - d by omega] at hlt
    simp only [Goal.heightBound, opHeight] at he'' ⊢
    omega
  · rw [outcome_unary_primary L d fun r₁ hr₁ => hbang ⟨r₁, hr₁⟩] at h
    exact hprim _ (skipBlanks_length_le s) d e r h

theorem height_primary {s : List Char}
    (hcond : ∀ s', s'.length < s.length → HeightWithin L .conditional s') :
    HeightWithin L .primary s := by
  intro d e r h
  by_cases hn : ∃ r₀, s = 'n' :: r₀
  · obtain ⟨r₀, rfl⟩ := hn
    rw [outcome_var, Outcome.ok.injEq] at h
    obtain ⟨rfl, rfl⟩ := h
    simp [opHeight]
  by_cases hp : ∃ r₀, s = '(' :: r₀
  · obtain ⟨r₀, rfl⟩ := hp
    obtain ⟨hd, r₂, he, -⟩ := outcome_paren_eq_ok h
    have he' := hcond r₀ (by simp) (d + 1) e r₂ he
    simp only [Goal.heightBound] at he' ⊢
    rw [show L - d = L - (d + 1) + 1 by omega, unaryHeight]
    exact he'
  obtain ⟨v, -, rfl⟩ :=
    outcome_literal_eq_ok (fun r₀ h₀ => hn ⟨r₀, h₀⟩) (fun r₀ h₀ => hp ⟨r₀, h₀⟩) h
  simp [opHeight]

theorem height_within (g : Goal) (s : List Char) : HeightWithin L g s :=
  goal_induction (fun _ => height_conditional) (fun _ _ => height_chain)
    (fun _ _ _ => height_links) (fun _ => height_unary) (fun _ => height_primary) g s

end Steps

section Tallest

/-- `x` followed by `k` links of `op`, each with `n` on its right. -/
def chainOf (op : BinOp) : Nat → Formula → Formula
  | 0, x => x
  | k + 1, x => .binary op (chainOf op k x) .var

/-- `m` links on every tier, loosest outside, over `x`. -/
def tower (m : Nat) (x : Formula) : Formula :=
  chainOf .or m (chainOf .and m (chainOf .eq m (chainOf .lt m (chainOf .add m (chainOf .mul m x)))))

/-- The tallest formula that can be read with a limit of `L`: a conditional whose test is a
tower of `L` links per tier over the tallest formula for `L - 1`, in parentheses, or over `!n`
at the last level. -/
def tallest : Nat → Formula
  | 0 => .var
  | 1 => .ternary (tower 1 (.not .var)) .var .var
  | m + 2 => .ternary (tower (m + 2) (tallest (m + 1))) .var .var

/- The same for the equation lemmas of the chains and of the tallest formulas. -/
section
attribute [local simp] chainOf tallest
end

theorem opHeight_chainOf (op : BinOp) (k : Nat) (x : Formula) :
    (chainOf op k x).opHeight = x.opHeight + k := by
  induction k with
  | zero => rfl
  | succ k ih =>
    simp only [chainOf, opHeight, ih]
    omega

theorem opHeight_tower (m : Nat) (x : Formula) : (tower m x).opHeight = x.opHeight + 6 * m := by
  simp only [tower, opHeight_chainOf]
  omega

theorem opHeight_tallest (m : Nat) : (tallest (m + 1)).opHeight = condHeight (m + 1) := by
  induction m with
  | zero => rfl
  | succ m ih =>
    simp only [tallest, opHeight, opHeight_tower, ih, condHeight]
    omega

theorem literals_chainOf (op : BinOp) (k : Nat) (x : Formula) :
    (chainOf op k x).literals = x.literals := by
  induction k with
  | zero => rfl
  | succ k ih => simp [chainOf, literals, ih]

theorem literals_tallest (m : Nat) : (tallest m).literals = [] := by
  induction m using Nat.strong_induction_on with
  | _ m ih =>
    match m, ih with
    | 0, _ => rfl
    | 1, _ => simp [tallest, tower, literals, literals_chainOf]
    | m + 2, ih => simp [tallest, tower, literals, literals_chainOf, ih (m + 1) (by omega)]

theorem prec_chainOf (op : BinOp) (k : Nat) (x : Formula) :
    (chainOf op (k + 1) x).prec = op.prec :=
  rfl

theorem prec_tower (k : Nat) (x : Formula) : (tower (k + 1) x).prec = 2 :=
  rfl

theorem prec_tallest (m : Nat) : (tallest (m + 1)).prec = 1 := by
  cases m <;> rfl

theorem chainLength_chainOf {op : BinOp} {x : Formula} (hx : x.prec ≠ op.prec) (k : Nat) :
    (chainOf op k x).chainLength op.prec = k := by
  induction k with
  | zero => exact chainLength_eq_zero hx
  | succ k ih => simp [chainOf, chainLength, ih]

theorem nest_chainOf {op : BinOp} {x : Formula} (hx : x.prec ≠ op.prec) (k : Nat) :
    (chainOf op (k + 1) x).nest = max (x.nest + if x.prec < op.prec then 1 else 0) (k + 1) := by
  have h9 : ¬ (Formula.var.prec ≤ op.prec) := by
    have := op.prec_le
    show ¬ (9 ≤ op.prec)
    omega
  induction k with
  | zero =>
    rw [chainOf, nest, chainOf, chainLength_eq_zero hx, if_neg h9]
    rfl
  | succ k ih =>
    rw [chainOf, nest, ih, prec_chainOf, chainLength_chainOf hx, if_neg h9,
      if_neg (Nat.lt_irrefl _)]
    show max (max _ (k + 1)) (k + 1 + 1 + 0 + 0) = _
    omega

theorem nest_tower {x : Formula} (hx : x.prec ≠ 7) (k : Nat) :
    (tower (k + 1) x).nest = max (x.nest + if x.prec < 7 then 1 else 0) (k + 1) := by
  simp only [tower]
  rw [nest_chainOf (by rw [prec_chainOf]; decide), prec_chainOf,
    nest_chainOf (by rw [prec_chainOf]; decide), prec_chainOf,
    nest_chainOf (by rw [prec_chainOf]; decide), prec_chainOf,
    nest_chainOf (by rw [prec_chainOf]; decide), prec_chainOf,
    nest_chainOf (by rw [prec_chainOf]; decide), prec_chainOf, nest_chainOf hx]
  by_cases h7 : x.prec < 7
  · simp [BinOp.prec, h7]
  · simp [BinOp.prec, h7]

theorem nest_tallest (m : Nat) : (tallest (m + 1)).nest = m + 1 := by
  induction m with
  | zero => rfl
  | succ m ih =>
    have hp := prec_tallest m
    rw [tallest, nest, nest_tower (by rw [hp]; decide), ih, prec_tower, hp,
      if_pos (by decide), if_neg (by decide)]
    show max (max (m + 1 + 1) (m + 1 + 1) + 0) (max 0 0 + 1) = m + 1 + 1
    omega

theorem read_tallest (m : Nat) : read ⟨m + 1⟩ (tallest (m + 1)).render = .ok (tallest (m + 1)) := by
  rw [read_render ⟨m + 1⟩ (by simp [literals_tallest]), nest_tallest, if_pos (le_refl _)]

end Tallest

section Limit

theorem opHeight_le_of_outcome {L : Nat} {x r : List Char} {e : Formula}
    (h : (step L .conditional 0 x).outcome = .ok e r) : e.opHeight ≤ 3 * L ^ 2 + 4 * L + 1 := by
  have := height_within .conditional x 0 e r h
  rwa [Nat.sub_zero, Goal.heightBound, condHeight_closed] at this

/-- The nesting limit `L` bounds the height of an accepted tree, of a formula or of a header's
rule, by `3 L ^ 2 + 4 L + 1` operator nodes, not by `L`; for every `L ≥ 1` some text reaches
that height. -/
theorem opHeight_le_of_read (limits : Limits) :
    (∀ text e, read limits text = .ok e →
      e.opHeight ≤ 3 * limits.maxDepth ^ 2 + 4 * limits.maxDepth + 1) ∧
    (∀ text r, Rule.readHeader limits text = .ok r →
      r.root.opHeight ≤ 3 * limits.maxDepth ^ 2 + 4 * limits.maxDepth + 1) ∧
    (0 < limits.maxDepth → ∃ e, read limits e.render = .ok e ∧
      e.opHeight = 3 * limits.maxDepth ^ 2 + 4 * limits.maxDepth + 1) := by
  refine ⟨fun text e h => ?_, fun text r h => ?_, fun hL => ?_⟩
  · obtain ⟨r, hr, -⟩ := read_eq_ok.1 h
    exact opHeight_le_of_outcome hr
  · obtain ⟨x, rest, hx⟩ := readHeader_root h
    exact opHeight_le_of_outcome hx
  · obtain ⟨m, hm⟩ : ∃ m, limits.maxDepth = m + 1 := ⟨limits.maxDepth - 1, by omega⟩
    obtain ⟨L⟩ := limits
    simp only at hm
    subst hm
    exact ⟨tallest (m + 1), read_tallest m, by rw [opHeight_tallest, condHeight_closed]⟩

theorem opHeight_le_of_read_one :
    read ⟨1⟩ "n * n + n" = .ok (.binary .add (.binary .mul .var .var) .var) ∧
      (Formula.binary .add (.binary .mul .var .var) .var).opHeight ≤ 3 * 1 ^ 2 + 4 * 1 + 1 ∧
      ∃ e, read ⟨1⟩ e.render = .ok e ∧ e.opHeight = 3 * 1 ^ 2 + 4 * 1 + 1 :=
  have h : read ⟨1⟩ "n * n + n" = .ok (.binary .add (.binary .mul .var .var) .var) := by
    decide +kernel
  ⟨h, (opHeight_le_of_read ⟨1⟩).1 _ _ h, (opHeight_le_of_read ⟨1⟩).2.2 (by decide)⟩

/-- With a limit of one level, `n * n + n` is read as a tree two operators tall: the
multiplication is the first operand of the addition and is read at the same depth. -/
theorem read_taller_than_limit :
    read ⟨1⟩ "n * n + n" = .ok (.binary .add (.binary .mul .var .var) .var) ∧
      (Formula.binary .add (.binary .mul .var .var) .var).opHeight = 2 :=
  ⟨by decide +kernel, rfl⟩

end Limit

end Formula

end PluralForms
