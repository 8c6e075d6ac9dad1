import Mathlib
import PluralForms.Formula.Read

/-!
# Reading steps as plain outcomes

`Formula.step` answers with a `Reply`, which carries the proof that the rest of the text is a
suffix of it; that proof is what makes the recursion end. Statements about reading do not need
it, so `Reply.outcome` forgets it and keeps the tree, the rest and the kind of answer. Each goal
of the reader gets one equation saying what it does in terms of the outcomes of the steps it
calls, and the proofs that follow use these equations and never unfold `step`.

The module also holds the facts every such proof needs: the rest of a successful reading is a
suffix of the text, the nesting limit is never reached while the depth plus the length of the
text stays within it, blanks in front of a goal that skips them change nothing, and `Goal.Stops`,
the texts that cannot continue what a goal has read.
-/

namespace PluralForms

namespace Formula

open Text

/- The equation lemmas of `step` are generated here, once, before the equations below rewrite
with them; otherwise every proof checked in parallel waits for the first one to make them. -/
section
attribute [local simp] step
end

/-- What a reading step reports, without the proof that the rest is a suffix of the text. -/
inductive Outcome where
  | ok (value : Formula) (rest : List Char)
  | fail (rest : List Char)
  | tooDeep
  deriving DecidableEq, Repr

namespace Outcome

/-- Continues a successful outcome with `k`; a failure or the nesting limit is passed on. -/
def bind : Outcome → (Formula → List Char → Outcome) → Outcome
  | .ok e r, k => k e r
  | .fail r, _ => .fail r
  | .tooDeep, _ => .tooDeep

@[simp] theorem bind_ok (e : Formula) (r : List Char) (k : Formula → List Char → Outcome) :
    (Outcome.ok e r).bind k = k e r := rfl

@[simp] theorem bind_fail (r : List Char) (k : Formula → List Char → Outcome) :
    (Outcome.fail r).bind k = .fail r := rfl

@[simp] theorem bind_tooDeep (k : Formula → List Char → Outcome) :
    Outcome.tooDeep.bind k = .tooDeep := rfl

theorem bind_ne_tooDeep {o : Outcome} {k : Formula → List Char → Outcome} (ho : o ≠ .tooDeep)
    (hk : ∀ e r, o = .ok e r → k e r ≠ .tooDeep) : o.bind k ≠ .tooDeep := by
  cases o with
  | ok e r => exact hk e r rfl
  | fail r => simp
  | tooDeep => exact absurd rfl ho

theorem bind_eq_ok {o : Outcome} {k : Formula → List Char → Outcome} {e : Formula}
    {r : List Char} : o.bind k = .ok e r ↔ ∃ e' r', o = .ok e' r' ∧ k e' r' = .ok e r := by
  cases o with
  | ok e' r' =>
    constructor
    · intro h
      exact ⟨e', r', rfl, h⟩
    · rintro ⟨_, _, h, hk⟩
      cases h
      exact hk
  | fail _ => simp
  | tooDeep => simp

end Outcome

/-- The outcome a reply reports. -/
def Reply.outcome {s : List Char} : Reply s → Outcome
  | .ok e r _ => .ok e r
  | .fail r _ => .fail r
  | .tooDeep => .tooDeep

namespace Reply

variable {s : List Char}

@[simp] theorem outcome_ok (e : Formula) (r : List Char) (h : r <:+ s) :
    (Reply.ok e r h).outcome = .ok e r := rfl

@[simp] theorem outcome_fail (r : List Char) (h : r <:+ s) :
    (Reply.fail r h).outcome = .fail r := rfl

@[simp] theorem outcome_tooDeep : (Reply.tooDeep : Reply s).outcome = .tooDeep := rfl

@[simp] theorem outcome_widen {t : List Char} (h : s <:+ t) (x : Reply s) :
    (x.widen h).outcome = x.outcome := by
  cases x <;> rfl

theorem suffix_of_outcome {x : Reply s} {e : Formula} {r : List Char}
    (h : x.outcome = .ok e r) : r <:+ s := by
  cases x with
  | ok e' r' hr =>
    simp only [outcome_ok, Outcome.ok.injEq] at h
    exact h.2 ▸ hr
  | fail _ _ => cases h
  | tooDeep => cases h

end Reply

section Equations

variable (L d : Nat)

/-- A conditional reads a disjunction and, after a `?`, two conditionals one level deeper
separated by a `:`. -/
theorem outcome_conditional (s : List Char) :
    (step L .conditional d s).outcome =
      (step L (.chain .disjunction) d s).outcome.bind fun c r =>
        match skipBlanks r with
        | '?' :: r1 =>
          if d < L then
            (step L .conditional (d + 1) r1).outcome.bind fun y r2 =>
              match skipBlanks r2 with
              | ':' :: r3 => (step L .conditional (d + 1) r3).outcome.bind fun n r4 =>
                  .ok (.ternary c y n) r4
              | r3 => .fail r3
          else .tooDeep
        | _ => .ok c r := by
  rw [step.eq_1]
  split
  next h => simp only [h, Reply.outcome_tooDeep, Outcome.bind_tooDeep]
  next h => simp only [h, Reply.outcome_fail, Outcome.bind_fail]
  next c r hr h =>
    simp only [h, Reply.outcome_ok, Outcome.bind_ok]
    split
    next r1 hq =>
      simp only [hq]
      split
      · split
        next h2 => simp only [h2, Reply.outcome_tooDeep, Outcome.bind_tooDeep]
        next h2 => simp only [h2, Reply.outcome_fail, Outcome.bind_fail]
        next y r2 _ h2 =>
          simp only [h2, Reply.outcome_ok, Outcome.bind_ok]
          split
          next r3 hc =>
            simp only [hc]
            split <;> simp_all
          next r3 hc =>
            split
            · simp_all
            · simp
      · simp
    next hq =>
      split
      · simp_all
      · simp

theorem outcome_chain (t : Tier) (s : List Char) :
    (step L (.chain t) d s).outcome =
      (step L t.operand d s).outcome.bind fun lhs r => (step L (.links t lhs) d r).outcome := by
  rw [step.eq_2]
  split <;> simp_all

theorem outcome_links_none {t : Tier} {s : List Char} (lhs : Formula)
    (h : t.operator (skipBlanks s) = none) :
    (step L (.links t lhs) d s).outcome = .ok lhs s := by
  rw [step.eq_3]
  split
  · rfl
  · simp_all

theorem outcome_links_some {t : Tier} {s r1 : List Char} {op : BinOp} (lhs : Formula)
    (h : t.operator (skipBlanks s) = some (op, r1)) :
    (step L (.links t lhs) d s).outcome =
      if d < L then
        (step L t.operand (d + 1) r1).outcome.bind fun rhs r2 =>
          (step L (.links t (.binary op lhs rhs)) (d + 1) r2).outcome
      else .tooDeep := by
  rw [step.eq_3]
  split
  next ho => simp_all
  next op' r1' ho =>
    obtain ⟨rfl, rfl⟩ : op' = op ∧ r1' = r1 := by simp_all
    split
    · split <;> simp_all
    · rfl

theorem outcome_unary_bang {s r : List Char} (h : skipBlanks s = '!' :: r) :
    (step L .unary d s).outcome =
      if d < L then (step L .unary (d + 1) r).outcome.bind fun e r2 => .ok (.not e) r2
      else .tooDeep := by
  rw [step.eq_4]
  split
  next r' hb =>
    obtain rfl : r' = r := by simp_all
    split
    · split <;> simp_all
    · rfl
  next hb => exact absurd h (hb r)

theorem outcome_unary_primary {s : List Char} (h : ∀ r, skipBlanks s ≠ '!' :: r) :
    (step L .unary d s).outcome = (step L .primary d (skipBlanks s)).outcome := by
  rw [step.eq_4]
  split
  next r hb => exact absurd hb (h r)
  next => simp

theorem outcome_var (r : List Char) : (step L .primary d ('n' :: r)).outcome = .ok .var r := by
  rw [step.eq_5]
  rfl

theorem outcome_paren (r : List Char) :
    (step L .primary d ('(' :: r)).outcome =
      if d < L then
        (step L .conditional (d + 1) r).outcome.bind fun e r2 =>
          match skipBlanks r2 with
          | ')' :: r3 => .ok e r3
          | r3 => .fail r3
      else .tooDeep := by
  rw [step.eq_6]
  split
  · split
    next h => simp only [h, Reply.outcome_tooDeep, Outcome.bind_tooDeep]
    next h => simp only [h, Reply.outcome_fail, Outcome.bind_fail]
    next e r2 _ h =>
      simp only [h, Reply.outcome_ok, Outcome.bind_ok]
      split
      next r3 hc => simp only [hc, Reply.outcome_ok]
      next r3 hc =>
        split
        · simp_all
        · simp
  · rfl

theorem outcome_literal {s : List Char} (hn : ∀ r, s ≠ 'n' :: r) (hp : ∀ r, s ≠ '(' :: r) :
    (step L .primary d s).outcome =
      match readLiteral? s with
      | some (v, r) => .ok (.num v) r
      | none => .fail s := by
  rw [step.eq_7 L d s (fun r h => hn r h) (fun r h => hp r h)]
  split <;> simp_all

end Equations

/-! What an accepted reading of each goal is made of, read back from its equation. -/

section Inversions

variable {L d : Nat} {s r : List Char} {e : Formula}

/-- An accepted conditional is its test alone, or a test, `?`, a branch, `:` and a branch with
the branches read one level down. -/
theorem outcome_conditional_eq_ok (h : (step L .conditional d s).outcome = .ok e r) :
    (step L (.chain .disjunction) d s).outcome = .ok e r ∨
      ∃ c y n r₀ r₁ r₂ r₃, (step L (.chain .disjunction) d s).outcome = .ok c r₀ ∧
        skipBlanks r₀ = '?' :: r₁ ∧ d < L ∧ (step L .conditional (d + 1) r₁).outcome = .ok y r₂ ∧
        skipBlanks r₂ = ':' :: r₃ ∧ (step L .conditional (d + 1) r₃).outcome = .ok n r ∧
        e = .ternary c y n := by
  rw [outcome_conditional] at h
  obtain ⟨c, r₀, hc, h⟩ := Outcome.bind_eq_ok.1 h
  split at h
  next r₁ hq =>
    split at h
    next hd =>
      obtain ⟨y, r₂, hy, h⟩ := Outcome.bind_eq_ok.1 h
      split at h
      next r₃ hq' =>
        obtain ⟨n, r₄, hn, h⟩ := Outcome.bind_eq_ok.1 h
        simp only [Outcome.ok.injEq] at h
        obtain ⟨rfl, rfl⟩ := h
        exact .inr ⟨c, y, n, r₀, r₁, r₂, r₃, hc, hq, hd, hy, hq', hn, rfl⟩
      next => cases h
    next => cases h
  next =>
    simp only [Outcome.ok.injEq] at h
    obtain ⟨rfl, rfl⟩ := h
    exact .inl hc

/-- An accepted chain that goes on past an operator read its right operand one level down and
the rest of the chain from there. -/
theorem outcome_links_some_eq_ok {t : Tier} {lhs : Formula} {op : BinOp} {r₁ : List Char}
    (ho : t.operator (skipBlanks s) = some (op, r₁))
    (h : (step L (.links t lhs) d s).outcome = .ok e r) :
    d < L ∧ ∃ rhs r₂, (step L t.operand (d + 1) r₁).outcome = .ok rhs r₂ ∧
      (step L (.links t (.binary op lhs rhs)) (d + 1) r₂).outcome = .ok e r := by
  rw [outcome_links_some L d lhs ho] at h
  split at h
  next hd =>
    obtain ⟨rhs, r₂, hrhs, h⟩ := Outcome.bind_eq_ok.1 h
    exact ⟨hd, rhs, r₂, hrhs, h⟩
  next => cases h

theorem outcome_unary_bang_eq_ok {r₁ : List Char} (hb : skipBlanks s = '!' :: r₁)
    (h : (step L .unary d s).outcome = .ok e r) :
    d < L ∧ ∃ e', (step L .unary (d + 1) r₁).outcome = .ok e' r ∧ e = .not e' := by
  rw [outcome_unary_bang L d hb] at h
  split at h
  next hd =>
    obtain ⟨e', r₂, he', h⟩ := Outcome.bind_eq_ok.1 h
    simp only [Outcome.ok.injEq] at h
    obtain ⟨rfl, rfl⟩ := h
    exact ⟨hd, e', he', rfl⟩
  next => cases h

theorem outcome_paren_eq_ok (h : (step L .primary d ('(' :: s)).outcome = .ok e r) :
    d < L ∧ ∃ r₂, (step L .conditional (d + 1) s).outcome = .ok e r₂ ∧
      skipBlanks r₂ = ')' :: r := by
  rw [outcome_paren] at h
  split at h
  next hd =>
    obtain ⟨e', r₂, he', h⟩ := Outcome.bind_eq_ok.1 h
    split at h
    next r₃ hc =>
      simp only [Outcome.ok.injEq] at h
      obtain ⟨rfl, rfl⟩ := h
      exact ⟨hd, r₂, he', hc⟩
    next => cases h
  next => cases h

theorem outcome_literal_eq_ok (hn : ∀ r, s ≠ 'n' :: r) (hp : ∀ r, s ≠ '(' :: r)
    (h : (step L .primary d s).outcome = .ok e r) :
    ∃ v, readLiteral? s = some (v, r) ∧ e = .num v := by
  rw [outcome_literal L d hn hp] at h
  split at h
  next v r₀ hl =>
    simp only [Outcome.ok.injEq] at h
    obtain ⟨rfl, rfl⟩ := h
    exact ⟨v, hl, rfl⟩
  next => cases h

end Inversions

theorem suffix_of_outcome {L d : Nat} {g : Goal} {s r : List Char} {e : Formula}
    (h : (step L g d s).outcome = .ok e r) : r <:+ s :=
  Reply.suffix_of_outcome h

theorem Goal.rank_lt (g : Goal) : g.rank < 16 := by
  cases g with
  | links t _ | chain t => cases t <;> simp [Goal.rank, Tier.level]
  | _ => simp [Goal.rank]

theorem reading_induction {P : Goal → List Char → Prop}
    (h : ∀ g s, (∀ g' s', s'.length * 16 + g'.rank < s.length * 16 + g.rank → P g' s') → P g s)
    (g : Goal) (s : List Char) : P g s := by
  induction hn : s.length * 16 + g.rank using Nat.strong_induction_on generalizing g s with
  | _ n ih => exact h g s fun g' s' hlt => ih _ (hn ▸ hlt) g' s' rfl

theorem measure_lt_of_length_lt {g g' : Goal} {s s' : List Char} (h : s'.length < s.length) :
    s'.length * 16 + g'.rank < s.length * 16 + g.rank := by
  have := g'.rank_lt
  omega

/-- Induction along the calls the reader makes: a conditional calls a disjunction on the same
text and conditionals on shorter ones; a chain calls its operand on the same text and its links
on what is left; the links, a `!` and a parenthesis call on shorter texts; a unary formula calls
a primary one after the blanks. A property that each goal keeps, given that it holds of the
calls, holds of every reading. -/
theorem goal_induction {P : Goal → List Char → Prop}
    (conditional : ∀ s, P (.chain .disjunction) s →
      (∀ s', s'.length < s.length → P .conditional s') → P .conditional s)
    (chain : ∀ t s, P t.operand s →
      (∀ s', s'.length ≤ s.length → ∀ lhs, P (.links t lhs) s') → P (.chain t) s)
    (links : ∀ t lhs s, (∀ s', s'.length < s.length → P t.operand s') →
      (∀ s', s'.length < s.length → ∀ lhs', P (.links t lhs') s') → P (.links t lhs) s)
    (unary : ∀ s, (∀ s', s'.length < s.length → P .unary s') →
      (∀ s', s'.length ≤ s.length → P .primary s') → P .unary s)
    (primary : ∀ s, (∀ s', s'.length < s.length → P .conditional s') → P .primary s)
    (g : Goal) (s : List Char) : P g s := by
  induction g, s using reading_induction with
  | h g s ih =>
    cases g with
    | conditional =>
      exact conditional s (ih _ _ (by simp [Goal.rank, Tier.level]))
        fun s' hs' => ih _ _ (measure_lt_of_length_lt hs')
    | chain t =>
      refine chain t s (ih _ _ (by rw [Tier.operand_rank]; simp [Goal.rank])) fun s' hs' lhs => ?_
      exact ih _ _ (by simp only [Goal.rank]; omega)
    | links t lhs =>
      exact links t lhs s (fun s' hs' => ih _ _ (measure_lt_of_length_lt hs'))
        fun s' hs' lhs' => ih _ _ (measure_lt_of_length_lt hs')
    | unary =>
      refine unary s (fun s' hs' => ih _ _ (measure_lt_of_length_lt hs')) fun s' hs' => ?_
      exact ih _ _ (by simp only [Goal.rank]; omega)
    | primary => exact primary s fun s' hs' => ih _ _ (measure_lt_of_length_lt hs')

theorem length_lt_of_skipBlanks_eq_cons {s r : List Char} {c : Char}
    (h : skipBlanks s = c :: r) : r.length < s.length := by
  have hs := skipBlanks_length_le s
  rw [h, List.length_cons] at hs
  omega

theorem length_lt_of_operator {t : Tier} {s r : List Char} {op : BinOp}
    (h : t.operator (skipBlanks s) = some (op, r)) : r.length < s.length :=
  Nat.lt_of_lt_of_le (Tier.operator_shorter h).2 (skipBlanks_length_le s)

/-- Every level is taken right after a character is read, so a reading whose depth plus the
length of its text stays within the limit never reaches the limit. -/
theorem outcome_ne_tooDeep {L : Nat} (g : Goal) (d : Nat) (s : List Char)
    (h : d + s.length ≤ L) : (step L g d s).outcome ≠ .tooDeep := by
  induction g, s using goal_induction generalizing d with
  | conditional s hchain hcond =>
    rw [outcome_conditional]
    refine Outcome.bind_ne_tooDeep (hchain d h) fun c r hc => ?_
    have hr := (suffix_of_outcome hc).length_le
    split
    next r1 hq =>
      have h1 := length_lt_of_skipBlanks_eq_cons hq
      rw [if_pos (by omega)]
      refine Outcome.bind_ne_tooDeep (hcond r1 (by omega) (d + 1) (by omega)) fun y r2 hy => ?_
      have h2 := (suffix_of_outcome hy).length_le
      split
      next r3 hq3 =>
        have h3 := length_lt_of_skipBlanks_eq_cons hq3
        refine Outcome.bind_ne_tooDeep (hcond r3 (by omega) (d + 1) (by omega)) ?_
        intro _ _ _
        simp
      next => simp
    next => simp
  | chain t s hop hlinks =>
    rw [outcome_chain]
    refine Outcome.bind_ne_tooDeep (hop d h) fun e r he => ?_
    have hr := (suffix_of_outcome he).length_le
    exact hlinks r hr e d (by omega)
  | links t lhs s hop hlinks =>
    cases ho : t.operator (skipBlanks s) with
    | none => simp [outcome_links_none L d lhs ho]
    | some p =>
      obtain ⟨op, r1⟩ := p
      have h1 := length_lt_of_operator ho
      rw [outcome_links_some L d lhs ho, if_pos (by omega)]
      refine Outcome.bind_ne_tooDeep (hop r1 h1 (d + 1) (by omega)) ?_
      intro rhs r2 hr2
      have h2 := (suffix_of_outcome hr2).length_le
      exact hlinks r2 (by omega) _ (d + 1) (by omega)
  | unary s hunary hprimary =>
    by_cases hb : ∃ r, skipBlanks s = '!' :: r
    · obtain ⟨r, hr⟩ := hb
      have h1 := length_lt_of_skipBlanks_eq_cons hr
      rw [outcome_unary_bang L d hr, if_pos (by omega)]
      refine Outcome.bind_ne_tooDeep (hunary r h1 (d + 1) (by omega)) ?_
      intro _ _ _
      simp
    · rw [outcome_unary_primary L d (fun r hr => hb ⟨r, hr⟩)]
      have h1 := skipBlanks_length_le s
      exact hprimary _ h1 d (by omega)
  | primary s hcond =>
    by_cases hn : ∃ r, s = 'n' :: r
    · obtain ⟨r, rfl⟩ := hn
      simp [outcome_var]
    by_cases hp : ∃ r, s = '(' :: r
    · obtain ⟨r, hs⟩ := hp
      have hr : r.length < s.length := by simp [hs]
      rw [hs, outcome_paren, if_pos (by omega)]
      refine Outcome.bind_ne_tooDeep (hcond r hr (d + 1) (by omega)) ?_
      intro _ _ _
      split <;> simp
    rw [outcome_literal L d (fun r hr => hn ⟨r, hr⟩) (fun r hr => hp ⟨r, hr⟩)]
    split <;> simp

/-- The operands of the tightest tier are unary formulas; those of every other tier are chains
of the tier just below it. -/
theorem Tier.operand_cases (t : Tier) :
    t.operand = .unary ∧ t.level = 0 ∨ ∃ t', t.operand = .chain t' ∧ t'.level + 1 = t.level := by
  cases t with
  | multiplicative => exact .inl ⟨rfl, rfl⟩
  | additive => exact .inr ⟨.multiplicative, rfl, rfl⟩
  | relational => exact .inr ⟨.additive, rfl, rfl⟩
  | equality => exact .inr ⟨.relational, rfl, rfl⟩
  | conjunction => exact .inr ⟨.equality, rfl, rfl⟩
  | disjunction => exact .inr ⟨.conjunction, rfl, rfl⟩

section Blanks

variable (L d : Nat)

theorem skipBlanks_skipBlanks (s : List Char) : skipBlanks (skipBlanks s) = skipBlanks s :=
  List.dropWhile_idempotent isBlank s

@[simp] theorem skipBlanks_space (s : List Char) : skipBlanks (' ' :: s) = skipBlanks s :=
  List.dropWhile_cons_of_pos rfl

theorem outcome_unary_skipBlanks (s : List Char) :
    (step L .unary d (skipBlanks s)).outcome = (step L .unary d s).outcome := by
  have hs := skipBlanks_skipBlanks s
  by_cases hb : ∃ r, skipBlanks s = '!' :: r
  · obtain ⟨r, hr⟩ := hb
    rw [outcome_unary_bang L d hr, outcome_unary_bang L d (hs.trans hr)]
  · have hb' : ∀ r, skipBlanks (skipBlanks s) ≠ '!' :: r := by
      intro r hr
      exact hb ⟨r, hs ▸ hr⟩
    rw [outcome_unary_primary L d (fun r hr => hb ⟨r, hr⟩), outcome_unary_primary L d hb', hs]

theorem outcome_chain_skipBlanks (t : Tier) (s : List Char) :
    (step L (.chain t) d (skipBlanks s)).outcome = (step L (.chain t) d s).outcome := by
  rw [outcome_chain, outcome_chain]
  congr 1
  rcases Tier.operand_cases t with ⟨h, -⟩ | ⟨t', h, hlt⟩
  · rw [h]
    exact outcome_unary_skipBlanks L d s
  · rw [h]
    exact outcome_chain_skipBlanks t' s
termination_by t.level
decreasing_by omega

theorem outcome_conditional_skipBlanks (s : List Char) :
    (step L .conditional d (skipBlanks s)).outcome = (step L .conditional d s).outcome := by
  rw [outcome_conditional, outcome_conditional, outcome_chain_skipBlanks]

end Blanks

theorem digitsValue_eq (ds : List Char) : digitsValue ds = Nat.ofDigitChars 10 ds 0 := by
  have hf : (fun acc (c : Char) => acc * 10 + (c.toNat - '0'.toNat)) =
      fun acc c => 10 * acc + (c.toNat - '0'.toNat) := by
    funext acc c
    rw [Nat.mul_comm]
  simp only [digitsValue, Nat.ofDigitChars, hf]

theorem readLiteral?_eq_some {s r : List Char} {v : Int64} (h : readLiteral? s = some (v, r)) :
    ∃ ds, s = ds ++ r ∧ ds ≠ [] ∧ (∀ c ∈ ds, c.isDigit) ∧
      Nat.ofDigitChars 10 ds 0 ≤ 2 ^ 63 - 1 ∧ v = Int64.ofNat (Nat.ofDigitChars 10 ds 0) := by
  unfold readLiteral? at h
  dsimp only at h
  split at h
  next hds =>
    simp only [Option.some.injEq, Prod.mk.injEq] at h
    obtain ⟨rfl, rfl⟩ := h
    simp only [Bool.and_eq_true, Bool.not_eq_true', List.isEmpty_eq_false_iff,
      decide_eq_true_eq, literalMax, digitsValue_eq] at hds
    exact ⟨s.takeWhile Char.isDigit, List.takeWhile_append_dropWhile.symm, hds.1,
      fun c hc => List.mem_takeWhile_imp hc, hds.2, by rw [digitsValue_eq]⟩
  next => cases h

/-- Whether the text starts with a decimal digit, which a literal just before it would take in. -/
def startsWithDigit : List Char → Bool
  | c :: _ => c.isDigit
  | [] => false

/-- How far a goal reads on: a unary or primary formula no further, a chain through the
operators of its own tier and the tighter ones, and a conditional through all six tiers and the
`?` above them. -/
def Goal.tiers : Goal → Nat
  | .conditional => 7
  | .chain t | .links t _ => t.level + 1
  | .unary | .primary => 0

/-- The text `r` cannot continue what the goal `g` has read: it does not go on with a digit,
and after blanks it holds no operator of a tier the goal reads, nor a `?` after a conditional. -/
def Goal.Stops (g : Goal) (r : List Char) : Prop :=
  startsWithDigit r = false ∧
    (∀ t : Tier, t.level < g.tiers → t.operator (skipBlanks r) = none) ∧
    (6 < g.tiers → ∀ r', skipBlanks r ≠ '?' :: r')

theorem readLiteral?_digits {ds r : List Char} (hne : ds ≠ []) (hds : ∀ c ∈ ds, c.isDigit)
    (hv : Nat.ofDigitChars 10 ds 0 ≤ 2 ^ 63 - 1) (hr : startsWithDigit r = false) :
    readLiteral? (ds ++ r) = some (Int64.ofNat (Nat.ofDigitChars 10 ds 0), r) := by
  have ht : (ds ++ r).takeWhile Char.isDigit = ds := by
    rw [List.takeWhile_append_of_pos hds]
    cases r <;> simp_all [startsWithDigit]
  have hd : (ds ++ r).dropWhile Char.isDigit = r := by
    rw [List.dropWhile_append_of_pos hds]
    cases r <;> simp_all [startsWithDigit]
  have hv' : digitsValue ds ≤ literalMax := by
    rw [digitsValue_eq]
    exact hv
  unfold readLiteral?
  dsimp only
  rw [ht, hd, if_pos (by simp [hne, hv']), digitsValue_eq]

theorem Tier.operand_tiers (t : Tier) : t.operand.tiers = t.level := by
  cases t <;> rfl

namespace Goal.Stops

variable {g g' : Goal} {r : List Char}

theorem mono (h : g.Stops r) (hg : g'.tiers ≤ g.tiers) : g'.Stops r :=
  ⟨h.1, fun t ht => h.2.1 t (by omega), fun h6 => h.2.2 (by omega)⟩

theorem operand {t : Tier} (h : (Goal.chain t).Stops r) : t.operand.Stops r :=
  h.mono (by rw [Tier.operand_tiers]; simp [Goal.tiers])

theorem operator_none {t : Tier} (h : (Goal.chain t).Stops r) :
    t.operator (skipBlanks r) = none :=
  h.2.1 t (by simp [Goal.tiers])

theorem disjunction (h : Goal.conditional.Stops r) : (Goal.chain .disjunction).Stops r :=
  h.mono (by simp [Goal.tiers, Tier.level])

theorem no_query (h : Goal.conditional.Stops r) : ∀ r', skipBlanks r ≠ '?' :: r' :=
  h.2.2 (by simp [Goal.tiers])

end Goal.Stops

end Formula

end PluralForms
