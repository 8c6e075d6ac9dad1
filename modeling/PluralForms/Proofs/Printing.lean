import Mathlib
import PluralForms.Formula.Render
import PluralForms.Rule.Header
import PluralForms.Proofs.Recognition

/-!
# Reading a printed formula back

The text `render` writes for a formula is read back as that formula, and the nesting it takes
to read is known exactly: `nest e`. A `(`, a `!` and each branch of a conditional take one level
for what they hold, and the links of a chain take one level each for as long as the chain runs,
so the right operand of the `k`-th link is read `k` levels deeper than the chain started. The
printer drops the parentheses around a left operand of the same precedence, which merges that
operand's links into the enclosing chain; `nest` counts them with `chainLength`.

Main statements:

* `read_render`: the text of a formula with no negative literal reads back as that formula
  exactly when the limit is at least `nest e`, and otherwise reaches the limit; never is it a
  syntax error.
* `nest_le_opCount`: `nest e` is at most twice the number of operator nodes.
* `readHeader_render`: the same for the header text of a rule.

The proof follows the printer: for every formula, what each goal that can read its text whole
gives on it (`Prints`), by induction on the formula.
-/

namespace PluralForms

/-- The binding strength of the operators of a tier, from 2 for `||` to 7 for `*`. -/
def Formula.Tier.prec (t : Formula.Tier) : Nat :=
  7 - t.level

namespace BinOp

/-- The tier whose chains an operator links. -/
def tier : BinOp → Formula.Tier
  | .or => .disjunction
  | .and => .conjunction
  | .eq | .ne => .equality
  | .gt | .ge | .lt | .le => .relational
  | .add | .sub => .additive
  | .mul | .div | .rem => .multiplicative

theorem prec_tier (op : BinOp) : op.tier.prec = op.prec := by
  cases op <;> rfl

theorem prec_le (op : BinOp) : op.prec ≤ 7 := by
  cases op <;> decide

theorem symbol_mem_tokens (op : BinOp) : (op.symbol.toList, op) ∈ op.tier.tokens := by
  cases op <;> simp [tier, symbol, Formula.Tier.tokens]

end BinOp

namespace Formula

open Text

/- The equation lemmas of the printer and of the measures below are generated here, once,
before the proofs below unfold them; otherwise every proof checked in parallel waits for the
first one to make them. -/
section
attribute [local simp] render opCount literals skipBlanks
end

section Nesting

/-- The number of links of precedence `p` in the chain at the left edge of a formula. -/
def chainLength (p : Nat) : Formula → Nat
  | .binary op l _ => if op.prec = p then l.chainLength p + 1 else 0
  | _ => 0

/-- The nesting the printed text of a formula takes to read, beyond the depth at which reading
starts. -/
def nest : Formula → Nat
  | .num _ | .var => 0
  | .not e => e.nest + (if e.prec < 8 then 1 else 0) + 1
  | .binary op l r =>
    max (l.nest + if l.prec < op.prec then 1 else 0)
      (l.chainLength op.prec + 1 + r.nest + if r.prec ≤ op.prec then 1 else 0)
  | .ternary c t f => max (c.nest + if c.prec ≤ 1 then 1 else 0) (max t.nest f.nest + 1)

/- The equation lemmas of the two measures are generated here, once, for the same reason as
those of the printer above. -/
section
attribute [local simp] chainLength nest
end

theorem chainLength_eq_zero {e : Formula} {p : Nat} (h : e.prec ≠ p) : e.chainLength p = 0 := by
  cases e with
  | binary op l r =>
    simp only [prec] at h
    simp [chainLength, h]
  | _ => rfl

theorem chainLength_le_opCount (p : Nat) (e : Formula) : e.chainLength p ≤ e.opCount := by
  induction e with
  | binary op l r ihl _ =>
    simp only [chainLength, opCount]
    split <;> omega
  | _ => simp [chainLength]

/-- The printed text never takes more than two levels per operator node: one for the node and
one for the parentheses around it. -/
theorem nest_le_opCount (e : Formula) : e.nest ≤ 2 * e.opCount := by
  induction e with
  | num | var => simp [nest]
  | not e ih =>
    simp only [nest, opCount]
    split <;> omega
  | binary op l r ihl ihr =>
    have hl := chainLength_le_opCount op.prec l
    simp only [nest, opCount]
    split <;> split <;> omega
  | ternary c t f ihc iht ihf =>
    simp only [nest, opCount]
    split <;> omega

end Nesting

section Texts

theorem toList_parenIf (w : Bool) (s : String) :
    (parenIf w s).toList = if w then '(' :: (s.toList ++ [')']) else s.toList := by
  cases w <;> simp [parenIf]

theorem render_not_toList (e : Formula) :
    (render (.not e)).toList = '!' :: (parenIf (decide (e.prec < 8)) e.render).toList := by
  simp [render]

theorem render_binary_toList (op : BinOp) (l r : Formula) :
    (render (.binary op l r)).toList =
      (parenIf (decide (l.prec < op.prec)) l.render).toList ++
        ' ' :: (op.symbol.toList ++ ' ' :: (parenIf (decide (r.prec ≤ op.prec)) r.render).toList) := by
  simp [render]

theorem render_ternary_toList (c t f : Formula) :
    (render (.ternary c t f)).toList =
      (parenIf (decide (c.prec ≤ 1)) c.render).toList ++
        ' ' :: '?' :: ' ' :: (t.render.toList ++ ' ' :: ':' :: ' ' :: f.render.toList) := by
  simp [render]

theorem render_num_toList {v : Int64} (h : 0 ≤ v.toInt) :
    (render (.num v)).toList = Nat.toDigits 10 v.toInt.toNat := by
  simp [render, Int.repr_eq_if, h, Nat.toList_repr]

theorem toDigits_head (n : Nat) : ∃ c ds, Nat.toDigits 10 n = c :: ds ∧ c.isDigit := by
  obtain ⟨c, ds, h⟩ := List.exists_cons_of_ne_nil (Nat.toDigits_ne_nil (n := n) (b := 10))
  exact ⟨c, ds, h, Nat.isDigit_of_mem_toDigits (by decide) (by decide) (h ▸ List.mem_cons_self)⟩

theorem ne_of_isDigit {c c' : Char} (hc : c.isDigit) (hc' : c'.isDigit = false) : c ≠ c' := by
  rintro rfl
  simp_all

end Texts

section Phrases

/-- Reading the text `x` with the goal `g`, from any depth within the limit and followed by any
rest that stops the goal, gives `e` when `n` more levels fit, and otherwise reaches the limit. -/
def Phrase (L : Nat) (g : Goal) (x : List Char) (e : Formula) (n : Nat) : Prop :=
  ∀ d rest, d ≤ L → g.Stops rest →
    (step L g d (x ++ rest)).outcome = if d + n ≤ L then .ok e rest else .tooDeep

/-- The same for a chain of tier `t` whose first links make up `x`: when `n` levels fit, the
chain goes on after `x` with the tree `e`, `k` levels deeper. -/
def ChainPhrase (L : Nat) (t : Tier) (x : List Char) (e : Formula) (n k : Nat) : Prop :=
  ∀ d rest, d ≤ L → t.operand.Stops rest →
    (step L (.chain t) d (x ++ rest)).outcome =
      if d + n ≤ L then (step L (.links t e) (d + k) rest).outcome else .tooDeep

@[simp] theorem Outcome.ite_bind (c : Prop) [Decidable c] (o : Outcome)
    (k : Formula → List Char → Outcome) :
    (if c then o else .tooDeep).bind k = if c then o.bind k else .tooDeep := by
  split <;> rfl

theorem Tier.eq_of_level_eq {t t' : Tier} (h : t.level = t'.level) : t = t' := by
  cases t <;> cases t' <;> simp_all [Tier.level]

theorem outcome_operand_skipBlanks (L d : Nat) (t : Tier) (s : List Char) :
    (step L t.operand d (skipBlanks s)).outcome = (step L t.operand d s).outcome := by
  rcases Tier.operand_cases t with ⟨h, -⟩ | ⟨t', h, -⟩
  · rw [h, outcome_unary_skipBlanks]
  · rw [h, outcome_chain_skipBlanks]

variable {L : Nat} {x : List Char} {e : Formula} {n : Nat}

theorem Phrase.chain {t : Tier} (h : Phrase L t.operand x e n) : ChainPhrase L t x e n 0 := by
  intro d rest hd hr
  rw [outcome_chain, h d rest hd hr]
  split <;> simp

theorem ChainPhrase.phrase {t : Tier} {k : Nat} (h : ChainPhrase L t x e n k) :
    Phrase L (.chain t) x e n := by
  intro d rest hd hr
  rw [h d rest hd hr.operand, outcome_links_none L (d + k) e hr.operator_none]

theorem Phrase.conditional (h : Phrase L (.chain .disjunction) x e n) :
    Phrase L .conditional x e n := by
  intro d rest hd hr
  rw [outcome_conditional, h d rest hd hr.disjunction]
  split
  · rw [Outcome.bind_ok]
    split
    next r₁ hq => exact absurd hq (hr.no_query r₁)
    next => rfl
  · rfl

theorem Phrase.unary_blanks {b : List Char} {c : Char} {x' : List Char} (hb : Blanks b)
    (hc : ¬ IsBlank c) (hbang : c ≠ '!') (h : Phrase L .primary (c :: x') e n) :
    Phrase L .unary (b ++ c :: x') e n := by
  intro d rest hd hr
  have hs : skipBlanks (b ++ c :: x' ++ rest) = (c :: x') ++ rest := by
    rw [List.append_assoc, skipBlanks_blanks_append hb]
    exact skipBlanks_cons hc _
  have hnot : ∀ r, skipBlanks (b ++ c :: x' ++ rest) ≠ '!' :: r := by
    intro r h'
    rw [hs] at h'
    exact hbang (List.cons.inj h').1
  rw [outcome_unary_primary L d hnot, hs]
  exact h d rest hd hr

theorem Phrase.unary {c : Char} {x' : List Char} (hc : ¬ IsBlank c) (hb : c ≠ '!')
    (h : Phrase L .primary (c :: x') e n) : Phrase L .unary (c :: x') e n :=
  Phrase.unary_blanks (b := []) (fun _ h => nomatch h) hc hb h

theorem Phrase.tiers (h : Phrase L .unary x e n) (t : Tier) :
    Phrase L t.operand x e n ∧ Phrase L (.chain t) x e n := by
  have hop : Phrase L t.operand x e n := by
    rcases Tier.operand_cases t with ⟨ho, -⟩ | ⟨t', ho, hlt⟩
    · rw [ho]
      exact h
    · rw [ho]
      exact (Phrase.tiers h t').2
  exact ⟨hop, hop.chain.phrase⟩
termination_by t.level
decreasing_by omega

theorem Phrase.looser {t : Tier} (h : Phrase L (.chain t) x e n) (t' : Tier)
    (ht : t.level ≤ t'.level) : Phrase L (.chain t') x e n := by
  rcases Nat.lt_or_eq_of_le ht with hlt | heq
  · rcases Tier.operand_cases t' with ⟨-, h0⟩ | ⟨t'', ho, hl⟩
    · omega
    · have hop : Phrase L t'.operand x e n := by
        rw [ho]
        exact Phrase.looser h t'' (by omega)
      exact hop.chain.phrase
  · rw [← Tier.eq_of_level_eq heq]
    exact h
termination_by t'.level

theorem Phrase.operand_blank {t : Tier} (h : Phrase L t.operand x e n) :
    Phrase L t.operand (' ' :: x) e n := by
  intro d rest hd hr
  rw [← outcome_operand_skipBlanks L d t, List.cons_append, skipBlanks_space,
    outcome_operand_skipBlanks L d t]
  exact h d rest hd hr

theorem Phrase.conditional_blank (h : Phrase L .conditional x e n) :
    Phrase L .conditional (' ' :: x) e n := by
  intro d rest hd hr
  rw [← outcome_conditional_skipBlanks L d, List.cons_append, skipBlanks_space,
    outcome_conditional_skipBlanks L d]
  exact h d rest hd hr

/-- Taking a level for what is read one level down: the reading goes on with what that gives
when `n + 1` levels fit, and otherwise reaches the limit. -/
theorem Outcome.level_bind {d n : Nat} {o : Outcome} {e : Formula} {r : List Char}
    (k : Formula → List Char → Outcome)
    (ho : d < L → o = if d + 1 + n ≤ L then .ok e r else .tooDeep) :
    (if d < L then o.bind k else .tooDeep) = if d + (n + 1) ≤ L then k e r else .tooDeep := by
  by_cases hdL : d < L
  · rw [if_pos hdL, ho hdL]
    by_cases hn : d + 1 + n ≤ L
    · rw [if_pos hn, Outcome.bind_ok, if_pos (by omega)]
    · rw [if_neg hn, Outcome.bind_tooDeep, if_neg (by omega)]
  · rw [if_neg hdL, if_neg (by omega)]

theorem Phrase.var : Phrase L .primary ['n'] .var 0 := by
  intro d rest hd _
  rw [List.singleton_append, outcome_var, if_pos (by omega)]

/-- A run of digits whose value fits a signed word is read as that literal, which takes no
level. -/
theorem Phrase.digits {ds : List Char} (hne : ds ≠ []) (hds : ∀ c ∈ ds, c.isDigit)
    (hv : Nat.ofDigitChars 10 ds 0 ≤ 2 ^ 63 - 1) :
    Phrase L .primary ds (.num (Int64.ofNat (Nat.ofDigitChars 10 ds 0))) 0 := by
  intro d rest hd hr
  obtain ⟨c, ds', rfl⟩ := List.exists_cons_of_ne_nil hne
  have hc := hds c List.mem_cons_self
  have hl := readLiteral?_digits hne hds hv hr.1
  have hn : ∀ r, c :: ds' ++ rest ≠ 'n' :: r := by
    intro r h'
    exact ne_of_isDigit hc rfl (List.cons.inj h').1
  have hp : ∀ r, c :: ds' ++ rest ≠ '(' :: r := by
    intro r h'
    exact ne_of_isDigit hc rfl (List.cons.inj h').1
  rw [outcome_literal L d hn hp, hl, if_pos (by omega)]

theorem Phrase.num {v : Int64} (h : 0 ≤ v.toInt) :
    Phrase L .primary (Nat.toDigits 10 v.toInt.toNat) (.num v) 0 := by
  have hv : Int64.ofNat (Nat.ofDigitChars 10 (Nat.toDigits 10 v.toInt.toNat) 0) = v := by
    rw [Nat.ofDigitChars_ten_toDigits, ← Int64.ofInt_eq_ofNat, Int.toNat_of_nonneg h,
      Int64.ofInt_toInt]
  have hle : Nat.ofDigitChars 10 (Nat.toDigits 10 v.toInt.toNat) 0 ≤ 2 ^ 63 - 1 := by
    have := Int64.toInt_lt v
    rw [Nat.ofDigitChars_ten_toDigits]
    omega
  have h' := Phrase.digits (L := L) Nat.toDigits_ne_nil
    (fun _ hc => Nat.isDigit_of_mem_toDigits (by decide) (by decide) hc) hle
  rwa [hv] at h'

theorem Phrase.paren_token {w : List Char} (h : Phrase L .conditional x e n)
    (hw : IsToken [')'] w) : Phrase L .primary ('(' :: (x ++ w)) e (n + 1) := by
  intro d rest hd hr
  have hc : Goal.conditional.Stops (w ++ rest) := hw.stops (.inr (.inr rfl)) (by decide) rest
  rw [List.cons_append, List.append_assoc, outcome_paren,
    Outcome.level_bind _ fun hdL => h (d + 1) _ (by omega) hc, hw.skipBlanks (by decide)]
  rfl

theorem Phrase.paren (h : Phrase L .conditional x e n) :
    Phrase L .primary ('(' :: (x ++ [')'])) e (n + 1) :=
  h.paren_token ⟨[], by simp [Blanks], rfl⟩

theorem Phrase.not_token {w : List Char} (hw : IsToken ['!'] w) (h : Phrase L .unary x e n) :
    Phrase L .unary (w ++ x) (.not e) (n + 1) := by
  intro d rest hd hr
  rw [List.append_assoc, outcome_unary_bang L d (hw.skipBlanks (by decide) (x ++ rest)),
    List.nil_append, Outcome.level_bind _ fun hdL => h (d + 1) rest (by omega) hr]

theorem Phrase.not (h : Phrase L .unary x e n) : Phrase L .unary ('!' :: x) (.not e) (n + 1) :=
  Phrase.not_token (w := ['!']) ⟨[], by simp [Blanks], rfl⟩ h

/-- A link of a chain: the operator takes one level, `k` levels below the start for a left side
of `k` links, and the right operand is read there. The operand must not start with a `=` that
would lengthen the operator. -/
theorem ChainPhrase.link_token {t : Tier} {op : BinOp} {tok : List Char}
    (hop : (tok, op) ∈ t.tokens) {xl w xr : List Char} {l r : Formula} {nl nr k : Nat}
    (hl : ChainPhrase L t xl l nl k) (hw : IsToken tok w) (hr : Phrase L t.operand xr r nr)
    (hxr : ∀ rest x', xr ++ rest ≠ '=' :: x') :
    ChainPhrase L t (xl ++ w ++ xr) (.binary op l r) (max nl (k + 1 + nr)) (k + 1) := by
  intro d rest hd hrest
  obtain ⟨c, tok', rfl, hc, hdig, hq⟩ := Tier.token_head hop
  obtain ⟨b, hb, rfl⟩ := hw
  have hstop : t.operand.Stops (b ++ c :: (tok' ++ (xr ++ rest))) := by
    refine Goal.Stops.token hb hc hdig (fun t' ht' => ?_) fun _ => hq
    rw [Tier.operand_tiers] at ht'
    exact Tier.operator_token_tighter hop ht'
  have ho : t.operator (skipBlanks (b ++ c :: (tok' ++ (xr ++ rest)))) = some (op, xr ++ rest) := by
    rw [skipBlanks_blanks_append hb, skipBlanks_cons hc]
    exact Tier.operator_token hop (hxr rest)
  have hs : xl ++ (b ++ c :: tok') ++ xr ++ rest = xl ++ (b ++ c :: (tok' ++ (xr ++ rest))) := by
    simp
  have hr' : d + k < L → (step L t.operand (d + k + 1) (xr ++ rest)).outcome =
      if d + k + 1 + nr ≤ L then .ok r rest else .tooDeep :=
    fun hk => hr (d + k + 1) rest (by omega) hrest
  rw [hs, hl d _ hd hstop, outcome_links_some L (d + k) l ho, Outcome.level_bind _ hr']
  split_ifs <;> first | rfl | omega

theorem ChainPhrase.link {t : Tier} {op : BinOp} (hop : (op.symbol.toList, op) ∈ t.tokens)
    {xl xr : List Char} {l r : Formula} {nl nr k : Nat} (hl : ChainPhrase L t xl l nl k)
    (hr : Phrase L t.operand xr r nr) :
    ChainPhrase L t (xl ++ ' ' :: (op.symbol.toList ++ ' ' :: xr)) (.binary op l r)
      (max nl (k + 1 + nr)) (k + 1) := by
  have hop' : IsToken op.symbol.toList (' ' :: op.symbol.toList) :=
    ⟨[' '], by simp [Blanks, IsBlank], rfl⟩
  have h := hl.link_token hop hop' hr.operand_blank fun _ _ h' =>
    absurd (List.cons.inj h').1 (by decide)
  simpa using h

theorem Phrase.ternary_token {xc w₂ xy w₄ xf : List Char} {c y f : Formula} {nc ny nf : Nat}
    (hc : Phrase L (.chain .disjunction) xc c nc) (h₂ : IsToken ['?'] w₂)
    (hy : Phrase L .conditional xy y ny) (h₄ : IsToken [':'] w₄)
    (hf : Phrase L .conditional xf f nf) :
    Phrase L .conditional (xc ++ w₂ ++ xy ++ w₄ ++ xf) (.ternary c y f) (max nc (max ny nf + 1)) := by
  intro d rest hd hr
  have hq : (Goal.chain .disjunction).Stops (w₂ ++ (xy ++ (w₄ ++ (xf ++ rest)))) :=
    h₂.stops (.inl rfl) (by simp [Goal.tiers, Tier.level]) _
  have hcolon : Goal.conditional.Stops (w₄ ++ (xf ++ rest)) :=
    h₄.stops (.inr (.inl rfl)) (by decide) _
  have hs : xc ++ w₂ ++ xy ++ w₄ ++ xf ++ rest = xc ++ (w₂ ++ (xy ++ (w₄ ++ (xf ++ rest)))) := by
    simp
  have hy' : d < L → (step L .conditional (d + 1) (xy ++ (w₄ ++ (xf ++ rest)))).outcome =
      if d + 1 + ny ≤ L then .ok y (w₄ ++ (xf ++ rest)) else .tooDeep :=
    fun hdL => hy (d + 1) _ (by omega) hcolon
  rw [hs, outcome_conditional, hc d _ hd hq, Outcome.ite_bind, Outcome.bind_ok,
    h₂.skipBlanks (by decide)]
  simp only [List.nil_append]
  rw [Outcome.level_bind _ hy']
  by_cases hny : d + (ny + 1) ≤ L
  · rw [if_pos hny, h₄.skipBlanks (by decide)]
    simp only [List.nil_append]
    rw [hf (d + 1) rest (by omega) hr, Outcome.ite_bind, Outcome.bind_ok]
    split_ifs <;> first | rfl | omega
  · rw [if_neg hny]
    split_ifs <;> first | rfl | omega

theorem Phrase.ternary {xc xy xf : List Char} {c y f : Formula} {nc ny nf : Nat}
    (hc : Phrase L (.chain .disjunction) xc c nc) (hy : Phrase L .conditional xy y ny)
    (hf : Phrase L .conditional xf f nf) :
    Phrase L .conditional (xc ++ ' ' :: '?' :: ' ' :: (xy ++ ' ' :: ':' :: ' ' :: xf))
      (.ternary c y f) (max nc (max ny nf + 1)) := by
  have hq : IsToken ['?'] [' ', '?'] := ⟨[' '], by simp [Blanks, IsBlank], rfl⟩
  have hcolon : IsToken [':'] [' ', ':'] := ⟨[' '], by simp [Blanks, IsBlank], rfl⟩
  have h := hc.ternary_token hq hy.conditional_blank hcolon hf.conditional_blank
  simpa using h

end Phrases

section Printed

variable {L : Nat} {e : Formula}

theorem Tier.level_le (t : Tier) : t.level ≤ 5 := by
  cases t <;> decide

/-- What reading the printed text of `e` gives from each goal that can read it whole: every
formula is read by a conditional; one that binds at least as tightly as a tier, by the chains of
that tier, as their first links; a leaf or a negation, by a unary goal. -/
structure Prints (L : Nat) (e : Formula) : Prop where
  conditional : Phrase L .conditional (render e).toList e e.nest
  chain : ∀ t : Tier, t.prec ≤ e.prec →
    ChainPhrase L t (render e).toList e e.nest (e.chainLength t.prec)
  unary : 8 ≤ e.prec → Phrase L .unary (render e).toList e e.nest

theorem Prints.operand (h : Prints L e) {t : Tier} (hp : t.prec < e.prec) :
    Phrase L t.operand (render e).toList e e.nest := by
  have := t.level_le
  rcases Tier.operand_cases t with ⟨ho, h0⟩ | ⟨t', ho, hl⟩
  · rw [ho]
    exact h.unary (by simp only [Tier.prec] at hp; omega)
  · rw [ho]
    exact (h.chain t' (by simp only [Tier.prec] at hp ⊢; omega)).phrase

theorem Prints.paren (h : Prints L e) :
    Phrase L .unary ('(' :: ((render e).toList ++ [')'])) e (e.nest + 1) :=
  h.conditional.paren.unary (by decide) (by decide)

theorem Prints.of_unary (h : Phrase L .unary (render e).toList e e.nest) (hp : 8 ≤ e.prec) :
    Prints L e where
  conditional := (h.tiers .disjunction).2.conditional
  chain t _ := by
    have := t.level_le
    rw [chainLength_eq_zero (by simp only [Tier.prec]; omega)]
    exact (h.tiers t).1.chain
  unary _ := h

theorem Prints.of_chain {t : Tier} (hp : e.prec = t.prec)
    (h : ChainPhrase L t (render e).toList e e.nest (e.chainLength t.prec)) : Prints L e where
  conditional := (h.phrase.looser .disjunction t.level_le).conditional
  chain t' ht' := by
    by_cases heq : t' = t
    · subst heq
      exact h
    have hne : t.level ≠ t'.level := fun hl => heq (Tier.eq_of_level_eq hl).symm
    have := t.level_le
    have := t'.level_le
    simp only [Tier.prec] at hp ht'
    rw [chainLength_eq_zero (by simp only [Tier.prec]; omega)]
    refine Phrase.chain ?_
    rcases Tier.operand_cases t' with ⟨-, h0⟩ | ⟨t'', ho, hl⟩
    · omega
    · rw [ho]
      exact h.phrase.looser t'' (by omega)
  unary hp' := by
    have := t.level_le
    simp only [Tier.prec] at hp
    omega

theorem prints_num {v : Int64} (hv : 0 ≤ v.toInt) : Prints L (.num v) := by
  obtain ⟨c, ds, hcs, hc⟩ := toDigits_head v.toInt.toNat
  have h := (Phrase.num (L := L) hv)
  rw [hcs] at h
  refine Prints.of_unary ?_ (by simp [prec])
  rw [render_num_toList hv, hcs]
  exact h.unary (not_isBlank_of_isDigit hc) (ne_of_isDigit hc rfl)

theorem prints_var : Prints L .var :=
  Prints.of_unary (Phrase.var.unary (by decide) (by decide)) (by simp [prec])

theorem prints_not {e : Formula} (h : Prints L e) : Prints L (.not e) := by
  have hin : Phrase L .unary (parenIf (decide (e.prec < 8)) e.render).toList e
      (e.nest + if e.prec < 8 then 1 else 0) := by
    by_cases hw : e.prec < 8
    · simpa [toList_parenIf, hw] using h.paren
    · simpa [toList_parenIf, hw] using h.unary (by omega)
  refine Prints.of_unary ?_ (by simp [prec])
  rw [render_not_toList]
  exact hin.not

theorem prints_binary {op : BinOp} {l r : Formula} (hl : Prints L l) (hr : Prints L r) :
    Prints L (.binary op l r) := by
  have hp := op.prec_tier
  have hleft : ChainPhrase L op.tier (parenIf (decide (l.prec < op.prec)) l.render).toList l
      (l.nest + if l.prec < op.prec then 1 else 0) (l.chainLength op.prec) := by
    by_cases hw : l.prec < op.prec
    · rw [chainLength_eq_zero (by omega)]
      simpa [toList_parenIf, hw] using (hl.paren.tiers op.tier).1.chain
    · simpa [toList_parenIf, hw, hp] using hl.chain op.tier (by omega)
  have hright : Phrase L op.tier.operand (parenIf (decide (r.prec ≤ op.prec)) r.render).toList r
      (r.nest + if r.prec ≤ op.prec then 1 else 0) := by
    by_cases hw : r.prec ≤ op.prec
    · simpa [toList_parenIf, hw] using (hr.paren.tiers op.tier).1
    · simpa [toList_parenIf, hw] using hr.operand (t := op.tier) (by omega)
  have h := ChainPhrase.link op.symbol_mem_tokens hleft hright
  refine Prints.of_chain (t := op.tier) (by simp [prec, hp]) ?_
  rw [render_binary_toList]
  simpa [nest, chainLength, hp, Nat.add_assoc] using h

theorem prints_ternary {c y f : Formula} (hc : Prints L c) (hy : Prints L y) (hf : Prints L f) :
    Prints L (.ternary c y f) := by
  have htest : Phrase L (.chain .disjunction) (parenIf (decide (c.prec ≤ 1)) c.render).toList c
      (c.nest + if c.prec ≤ 1 then 1 else 0) := by
    by_cases hw : c.prec ≤ 1
    · simpa [toList_parenIf, hw] using (hc.paren.tiers .disjunction).2
    · simpa [toList_parenIf, hw] using (hc.chain .disjunction (by simp [Tier.prec, Tier.level]; omega)).phrase
  have h := Phrase.ternary htest hy.conditional hf.conditional
  refine ⟨?_, fun t ht => ?_, fun hp => ?_⟩
  · rw [render_ternary_toList]
    simpa [nest] using h
  · have := t.level_le
    simp only [prec, Tier.prec] at ht
    omega
  · simp [prec] at hp

/-- The printed text of every formula with no negative literal is read back from every goal
that can read it. -/
theorem prints (e : Formula) (hlit : ∀ v ∈ e.literals, 0 ≤ v.toInt) : Prints L e := by
  induction e with
  | num v => exact prints_num (hlit v (by simp [literals]))
  | var => exact prints_var
  | not e ih => exact prints_not (ih hlit)
  | binary op l r ihl ihr =>
    simp only [literals, List.mem_append] at hlit
    exact prints_binary (ihl fun v hv => hlit v (.inl hv)) (ihr fun v hv => hlit v (.inr hv))
  | ternary c y f ihc ihy ihf =>
    simp only [literals, List.mem_append] at hlit
    exact prints_ternary (ihc fun v hv => hlit v (.inl (.inl hv)))
      (ihy fun v hv => hlit v (.inl (.inr hv))) (ihf fun v hv => hlit v (.inr hv))

end Printed

section ReadBack

variable {e : Formula}

/-- A formula's text is read back as the formula when the limit allows its nesting, and
otherwise reaches the limit: it is never a syntax error. -/
theorem read_render (limits : Limits) (hlit : ∀ v ∈ e.literals, 0 ≤ v.toInt) :
    read limits e.render =
      if e.nest ≤ limits.maxDepth then .ok e else .error (.nestingTooDeep limits.maxDepth) := by
  have h := (prints (L := limits.maxDepth) e hlit).conditional 0 [] (Nat.zero_le _)
    (Goal.Stops.blanks (b := []) (by simp [Blanks]))
  rw [List.append_nil, Nat.zero_add] at h
  split
  next hn => exact read_eq_ok.2 ⟨[], by rw [h, if_pos hn], rfl⟩
  next hn => exact read_of_tooDeep (by rw [h, if_neg hn])

theorem Reply.eq_ok_of_outcome {s r : List Char} {x : Reply s} (h : x.outcome = .ok e r) :
    ∃ hr, x = .ok e r hr := by
  cases x with
  | ok e' r' hr =>
    simp only [Reply.outcome_ok, Outcome.ok.injEq] at h
    obtain ⟨rfl, rfl⟩ := h
    exact ⟨hr, rfl⟩
  | fail => simp at h
  | tooDeep => simp at h

theorem Reply.eq_tooDeep_of_outcome {s : List Char} {x : Reply s} (h : x.outcome = .tooDeep) :
    x = .tooDeep := by
  cases x <;> simp_all

/-- The header scanner on a header written the way a rule prints itself: the count is the
number written, and the formula is whatever the reader makes of the text after `plural=`. -/
theorem scan_printed {L count : Nat} (hc : count ≤ 2 ^ 63 - 1) (x : List Char) :
    (∀ f r, (step L .conditional 0 x).outcome = .ok f r →
      Header.scan L ("nplurals=".toList ++ (Nat.toDigits 10 count ++ ("; plural=".toList ++ x))) =
        .ok (Int64.ofNat count) f (Header.afterFormula r)) ∧
    ((step L .conditional 0 x).outcome = .tooDeep →
      Header.scan L ("nplurals=".toList ++ (Nat.toDigits 10 count ++ ("; plural=".toList ++ x))) =
        .tooDeep) := by
  obtain ⟨c, ds, hcs, hdig⟩ := toDigits_head count
  have hds : ∀ c ∈ Nat.toDigits 10 count, c.isDigit :=
    fun _ h => Nat.isDigit_of_mem_toDigits (by decide) (by decide) h
  have hl : readLiteral? (Nat.toDigits 10 count ++ ("; plural=".toList ++ x)) =
      some (Int64.ofNat count, "; plural=".toList ++ x) := by
    have := readLiteral?_digits (Nat.toDigits_ne_nil (n := count)) hds
      (by rw [Nat.ofDigitChars_ten_toDigits]; exact hc)
      (by rfl : startsWithDigit ("; plural=".toList ++ x) = false)
    rwa [Nat.ofDigitChars_ten_toDigits] at this
  have hsk : skipBlanks (Nat.toDigits 10 count ++ ("; plural=".toList ++ x)) =
      Nat.toDigits 10 count ++ ("; plural=".toList ++ x) := by
    rw [hcs]
    exact skipBlanks_cons (not_isBlank_of_isDigit hdig) _
  have e₁ : skipBlanks ("nplurals=".toList ++ (Nat.toDigits 10 count ++ ("; plural=".toList ++ x)))
      = "nplurals=".toList ++ (Nat.toDigits 10 count ++ ("; plural=".toList ++ x)) := by
    simp [skipBlanks, isBlank]
  have e₂ : Header.afterLabel
      ("nplurals=".toList ++ (Nat.toDigits 10 count ++ ("; plural=".toList ++ x))) =
        "nplurals=".toList ++ (Nat.toDigits 10 count ++ ("; plural=".toList ++ x)) := by
    simp [Header.afterLabel, Header.dropWordIgnoringCase]
  have e₃ : Header.dropWord "nplurals".toList
      ("nplurals=".toList ++ (Nat.toDigits 10 count ++ ("; plural=".toList ++ x))) =
        some ('=' :: (Nat.toDigits 10 count ++ ("; plural=".toList ++ x))) := by
    simp [Header.dropWord]
  have e₄ : skipBlanks ("; plural=".toList ++ x) = ';' :: (" plural=".toList ++ x) := by
    simp [skipBlanks, isBlank]
  have e₅ : skipBlanks (" plural=".toList ++ x) = "plural=".toList ++ x := by
    simp [skipBlanks, isBlank]
  have e₆ : Header.dropWord "plural".toList ("plural=".toList ++ x) = some ('=' :: x) := by
    simp [Header.dropWord]
  unfold Header.scan
  simp only [e₁, e₂, e₃, skipBlanks_cons (show ¬ IsBlank '=' by decide), hsk, hl, e₄, e₅, e₆]
  refine ⟨fun f r h => ?_, fun h => ?_⟩
  · obtain ⟨hr, hx⟩ := Reply.eq_ok_of_outcome h
    rw [hx]
  · rw [Reply.eq_tooDeep_of_outcome h]

theorem Rule.make_count (r : Rule) : Rule.make (Int64.ofNat r.count) r.root = .ok r := by
  have hc : (Int64.ofNat r.count).toInt = r.count :=
    Int64.toInt_ofNat_of_lt (by have := r.count_le; omega)
  have hpos : 0 < (Int64.ofNat r.count).toInt := by
    rw [hc]
    exact_mod_cast r.count_pos
  rw [Rule.make, Rule.make?, dif_pos hpos]
  simp only [hc, Int.toNat_natCast]

/-- A rule's header text is read back as the rule when the limit allows its formula's nesting,
and otherwise reaches the limit. -/
theorem readHeader_render (limits : Limits) (r : Rule)
    (hlit : ∀ v ∈ r.root.literals, 0 ≤ v.toInt) :
    Rule.readHeader limits r.render =
      if r.root.nest ≤ limits.maxDepth then .ok r
      else .error (.parse (.nestingTooDeep limits.maxDepth)) := by
  have htext : r.render.toList = "nplurals=".toList ++
      (Nat.toDigits 10 r.count ++ ("; plural=".toList ++ (r.root.render.toList ++ [';']))) := by
    simp [Rule.render, Nat.toList_repr]
  have hsemi : Goal.conditional.Stops [';'] :=
    Goal.Stops.token (b := []) (x := []) (by simp [Blanks]) (by decide) rfl
      (fun t _ => by cases t <;> rfl) fun _ => by decide
  have h := (prints (L := limits.maxDepth) r.root hlit).conditional 0 [';'] (Nat.zero_le _) hsemi
  rw [Nat.zero_add] at h
  have hscan := scan_printed (L := limits.maxDepth) r.count_le (r.root.render.toList ++ [';'])
  unfold Rule.readHeader
  simp only [htext]
  by_cases hn : r.root.nest ≤ limits.maxDepth
  · rw [hscan.1 r.root [';'] (by rw [h, if_pos hn]), if_pos hn]
    simp [Header.afterFormula, skipBlanks, isBlank, Rule.make_count]
  · rw [hscan.2 (by rw [h, if_neg hn]), if_neg hn]

/-- With a limit of at least twice its operator nodes, the text of a formula with no negative
literal reads back as the formula, and the header text of a rule as the rule. -/
theorem render_reads_back (limits : Limits) :
    (∀ e : Formula, (∀ v ∈ e.literals, 0 ≤ v.toInt) → 2 * e.opCount ≤ limits.maxDepth →
      read limits e.render = .ok e) ∧
    (∀ r : Rule, (∀ v ∈ r.root.literals, 0 ≤ v.toInt) → 2 * r.root.opCount ≤ limits.maxDepth →
      Rule.readHeader limits r.render = .ok r) := by
  refine ⟨fun e hlit hd => ?_, fun r hlit hd => ?_⟩
  · rw [read_render limits hlit, if_pos ((nest_le_opCount e).trans hd)]
  · rw [readHeader_render limits r hlit, if_pos ((nest_le_opCount r.root).trans hd)]

theorem render_reads_back_fallback :
    (∀ v ∈ Rule.fallback.root.literals, 0 ≤ v.toInt) ∧
      2 * Rule.fallback.root.opCount ≤ ({} : Limits).maxDepth ∧
      read {} Rule.fallback.root.render = .ok Rule.fallback.root ∧
      Rule.readHeader {} Rule.fallback.render = .ok Rule.fallback :=
  have hlit : ∀ v ∈ Rule.fallback.root.literals, 0 ≤ v.toInt := by
    intro v hv
    simp only [Rule.fallback, literals, List.nil_append, List.mem_singleton] at hv
    subst hv
    decide
  have hd : 2 * Rule.fallback.root.opCount ≤ ({} : Limits).maxDepth := by decide
  ⟨hlit, hd, (render_reads_back {}).1 _ hlit hd, (render_reads_back {}).2 _ hlit hd⟩

end ReadBack

section Accepted

variable {L : Nat} {e : Formula}

theorem literals_nonneg_of_outcome {d : Nat} {x r : List Char}
    (h : (step L .conditional d x).outcome = .ok e r) : ∀ v ∈ e.literals, 0 ≤ v.toInt := by
  obtain ⟨w, -, hw⟩ := sound .conditional x d e r h
  exact hw.literals_nonneg

theorem Header.scan_ok {s rest : List Char} {count : Int64}
    (h : Header.scan L s = .ok count e rest) :
    ∃ x r, (step L .conditional 0 x).outcome = .ok e r := by
  unfold Header.scan at h
  dsimp only at h
  repeat' (split at h <;> try cases h)
  rename_i hstep
  exact ⟨_, _, (congrArg Reply.outcome hstep).trans (Reply.outcome_ok _ _ _)⟩

theorem Rule.make_root {count : Int64} {rule : Rule} (h : Rule.make count e = .ok rule) :
    rule.root = e := by
  unfold Rule.make Rule.make? at h
  split at h
  · cases h
    rfl
  · cases h

theorem readHeader_root {limits : Limits} {text : String} {r : Rule}
    (h : Rule.readHeader limits text = .ok r) :
    ∃ x rest, (step limits.maxDepth .conditional 0 x).outcome = .ok r.root rest := by
  unfold Rule.readHeader at h
  dsimp only at h
  split at h
  · cases h
  · cases h
  · next hs =>
    split at h
    · next hm =>
      cases h
      rw [Rule.make_root hm]
      exact Header.scan_ok hs
    · cases h
  · cases h

/-- Printing what was read: the text of an accepted formula, or of an accepted header's rule,
reads back under the same limits exactly when they allow its nesting `nest`; otherwise it
reaches the limit, which the text first read need not have. -/
theorem read_render_of_read (limits : Limits) :
    (∀ text e, read limits text = .ok e →
      read limits e.render =
        if e.nest ≤ limits.maxDepth then .ok e else .error (.nestingTooDeep limits.maxDepth)) ∧
    (∀ text r, Rule.readHeader limits text = .ok r →
      Rule.readHeader limits r.render =
        if r.root.nest ≤ limits.maxDepth then .ok r
        else .error (.parse (.nestingTooDeep limits.maxDepth))) := by
  refine ⟨fun text e h => read_render limits ?_, fun text r h => readHeader_render limits r ?_⟩
  · obtain ⟨w, b, -, -, hw⟩ := read_sentence h
    exact hw.literals_nonneg
  · obtain ⟨x, rest, hx⟩ := readHeader_root h
    exact literals_nonneg_of_outcome hx

theorem read_render_of_read_fallback :
    Rule.readHeader {} "nplurals=2; plural=(n != 1);" = .ok Rule.fallback ∧
      Rule.readHeader {} Rule.fallback.render = .ok Rule.fallback :=
  have h : Rule.readHeader {} "nplurals=2; plural=(n != 1);" = .ok Rule.fallback := by
    decide +kernel
  ⟨h, by rw [(read_render_of_read {}).2 _ _ h, if_pos (by decide)]⟩

/-- Printing drops the parentheses around `n + 1`, which makes it two links of one chain: the
right operand `!n` is then read two levels down and its `!` takes a third, past a limit of 2
that the parenthesised text stays within. -/
theorem render_needs_more_nesting :
    read ⟨2⟩ "(n + 1) + !n" = .ok (.binary .add (.binary .add .var (.num 1)) (.not .var)) ∧
      (Formula.binary .add (.binary .add .var (.num 1)) (.not .var)).render = "n + 1 + !n" ∧
      read ⟨2⟩ "n + 1 + !n" = .error (.nestingTooDeep 2) :=
  ⟨by decide +kernel, by decide +kernel, by decide +kernel⟩

end Accepted

end Formula

end PluralForms
