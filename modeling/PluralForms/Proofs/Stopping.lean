import Mathlib
import PluralForms.Proofs.Output

/-!
# Where reading stops

When reading fails, the reader has consumed a prefix of the text and reports the place after it.
That prefix is always the start of something the grammar accepts: each reading step that fails
has read the start of a phrase of its goal's symbol (`Begins`), so a syntax error is never placed
past the first point where the text stops being completable (`malformed_prefix_completable`).

A failed step has also read something a formula cannot end with (`Pending`): a parenthesis or a
conditional it opened is still open, or its last token waits for an operand. A phrase ends
otherwise, closed and with `n`, a digit or `)`. This tells the two ways reading can stop apart:
a failure inside the formula, and a complete formula followed by text that cannot continue it.

The proofs follow the reader's calls (`goal_induction`), as the soundness proof of
`Proofs.Recognition` does, and use what that proof gives for the steps that succeeded before
the failure.
-/

namespace PluralForms

namespace Formula

open Text

/-! ### Parentheses, conditionals and the last token of a text -/

section Measures

/-- Opening parentheses less closing ones. -/
def opens (w : List Char) : Int := (w.count '(' : Int) - w.count ')'

/-- Question marks of conditionals less their colons. -/
def asks (w : List Char) : Int := (w.count '?' : Int) - w.count ':'

/-- The last character of a text that is not a blank, if there is one. -/
def lastSolid (w : List Char) : Option Char := (w.filter fun c => !isBlank c).getLast?

/-- The characters that end a token after which an operand must come: those of the operators,
`!`, `(`, `?` and `:`. -/
def openers : List Char := ['|', '&', '=', '<', '>', '+', '-', '*', '/', '%', '!', '(', '?', ':']

/-- The text has no token yet, or its last token waits for an operand. -/
def Dangles (w : List Char) : Prop := ∀ c, lastSolid w = some c → c ∈ openers

/-- A text after which a formula cannot end: it closes no parenthesis or conditional that it has
not opened, and one of them is still open or its last token waits for an operand. -/
def Pending (w : List Char) : Prop :=
  0 ≤ opens w ∧ 0 ≤ asks w ∧ (0 < opens w ∨ 0 < asks w ∨ Dangles w)

/-- A text that an operand must follow and that closes nothing it has not opened. -/
def AwaitsOperand (u : List Char) : Prop :=
  0 ≤ opens u ∧ 0 ≤ asks u ∧ Dangles u

/-- A text that closes what it opens and ends with `n`, a digit or `)`, as every phrase does. -/
def Closed (w : List Char) : Prop :=
  opens w = 0 ∧ asks w = 0 ∧ ∃ c, lastSolid w = some c ∧ c ∉ openers

@[simp] theorem opens_append (u v : List Char) : opens (u ++ v) = opens u + opens v := by
  simp only [opens, List.count_append]
  omega

@[simp] theorem asks_append (u v : List Char) : asks (u ++ v) = asks u + asks v := by
  simp only [asks, List.count_append]
  omega

@[simp] theorem opens_nil : opens [] = 0 := rfl

@[simp] theorem asks_nil : asks [] = 0 := rfl

@[simp] theorem opens_cons (c : Char) (w : List Char) :
    opens (c :: w) = ((if c = '(' then 1 else 0) - (if c = ')' then 1 else 0) : Int) + opens w := by
  simp only [opens, List.count_cons, beq_iff_eq]
  split_ifs <;> omega

@[simp] theorem asks_cons (c : Char) (w : List Char) :
    asks (c :: w) = ((if c = '?' then 1 else 0) - (if c = ':' then 1 else 0) : Int) + asks w := by
  simp only [asks, List.count_cons, beq_iff_eq]
  split_ifs <;> omega

theorem lastSolid_append (u v : List Char) :
    lastSolid (u ++ v) = (lastSolid v).or (lastSolid u) := by
  simp only [lastSolid, List.filter_append, List.getLast?_append]

theorem lastSolid_snoc {c : Char} (hc : ¬ IsBlank c) (u : List Char) :
    lastSolid (u ++ [c]) = some c := by
  have hc' : isBlank c = false := by
    cases h : isBlank c
    · rfl
    · exact absurd (isBlank_iff.1 h) hc
  simp [lastSolid, List.filter_append, hc']

theorem not_isBlank_of_mem_openers {c : Char} (hc : c ∈ openers) : ¬ IsBlank c := by
  simp only [openers, List.mem_cons, List.not_mem_nil, or_false] at hc
  rcases hc with rfl | rfl | rfl | rfl | rfl | rfl | rfl | rfl | rfl | rfl | rfl | rfl | rfl | rfl
    <;> decide

theorem Blanks.count_eq_zero {b : List Char} (hb : Blanks b) {c : Char} (hc : ¬ IsBlank c) :
    b.count c = 0 :=
  List.count_eq_zero.2 fun hm => hc (hb c hm)

@[simp] theorem Blanks.opens {b : List Char} (hb : Blanks b) : opens b = 0 := by
  simp [Formula.opens, hb.count_eq_zero (c := '(') (by decide),
    hb.count_eq_zero (c := ')') (by decide)]

@[simp] theorem Blanks.asks {b : List Char} (hb : Blanks b) : asks b = 0 := by
  simp [Formula.asks, hb.count_eq_zero (c := '?') (by decide),
    hb.count_eq_zero (c := ':') (by decide)]

theorem Blanks.lastSolid {b : List Char} (hb : Blanks b) : lastSolid b = none := by
  have h : b.filter (fun c => !isBlank c) = [] :=
    List.filter_eq_nil_iff.2 fun c hc => by simp [isBlank_iff.2 (hb c hc)]
  simp [Formula.lastSolid, h]

theorem IsToken.measures {tok w : List Char} (h : IsToken tok w) :
    opens w = opens tok ∧ asks w = asks tok ∧ lastSolid w = lastSolid tok := by
  obtain ⟨b, hb, rfl⟩ := h
  refine ⟨by simp [hb], by simp [hb], ?_⟩
  rw [lastSolid_append, hb.lastSolid, Option.or_none]

theorem awaitsOperand_snoc {u : List Char} {c : Char} (ho : 0 ≤ opens (u ++ [c]))
    (ha : 0 ≤ asks (u ++ [c])) (hc : c ∈ openers) : AwaitsOperand (u ++ [c]) := by
  refine ⟨ho, ha, fun c' hc' => ?_⟩
  rw [lastSolid_snoc (not_isBlank_of_mem_openers hc)] at hc'
  cases hc'
  exact hc

theorem Blanks.awaitsOperand {b : List Char} (hb : Blanks b) : AwaitsOperand b :=
  ⟨by simp [hb], by simp [hb], fun c hc => by rw [hb.lastSolid] at hc; cases hc⟩

theorem AwaitsOperand.pending {u v : List Char} (hu : AwaitsOperand u) (hv : Pending v) :
    Pending (u ++ v) := by
  obtain ⟨hu₁, hu₂, hu₃⟩ := hu
  obtain ⟨hv₁, hv₂, hv₃⟩ := hv
  refine ⟨by simp only [opens_append]; omega, by simp only [asks_append]; omega, ?_⟩
  rcases hv₃ with h | h | h
  · exact .inl (by simp only [opens_append]; omega)
  · exact .inr (.inl (by simp only [asks_append]; omega))
  · refine .inr (.inr fun c hc => ?_)
    rw [lastSolid_append] at hc
    cases hl : lastSolid v with
    | none =>
      rw [hl, Option.none_or] at hc
      exact hu₃ c hc
    | some c' =>
      rw [hl, Option.some_or] at hc
      exact h c (hl.trans hc)

theorem Pending.nil : Pending [] :=
  ⟨le_refl _, le_refl _, .inr (.inr fun c hc => by simp [lastSolid] at hc)⟩

/-- Text that closes what it opens and ends with a solid character that opens nothing is
no pending text. -/
theorem Closed.not_pending {w : List Char} (h : Closed w) : ¬ Pending w := by
  obtain ⟨ho, ha, c, hc, hno⟩ := h
  rintro ⟨-, -, h | h | h⟩
  · omega
  · omega
  · exact hno (h c hc)

theorem Closed.append_left {u w : List Char} (hu : opens u = 0 ∧ asks u = 0) (hw : Closed w) :
    Closed (u ++ w) := by
  obtain ⟨ho, ha, c, hc, hno⟩ := hw
  refine ⟨by simp [ho, hu.1], by simp [ha, hu.2], c, ?_, hno⟩
  rw [lastSolid_append, hc, Option.some_or]

end Measures

/-! ### The tokens of a tier -/

theorem Tier.token_awaits {t : Tier} {tok : List Char} {op : BinOp} (h : (tok, op) ∈ t.tokens) :
    opens tok = 0 ∧ asks tok = 0 ∧ ∃ c, lastSolid tok = some c ∧ c ∈ openers := by
  cases t <;> cases op <;> simp [Tier.tokens] at h
  all_goals
    subst h
    exact ⟨by decide, by decide, _, rfl, by decide⟩

theorem digit_not_mem_openers {c : Char} (hc : c.isDigit) : c ∉ openers := by
  intro hm
  simp only [openers, List.mem_cons, List.not_mem_nil, or_false] at hm
  rcases hm with rfl | rfl | rfl | rfl | rfl | rfl | rfl | rfl | rfl | rfl | rfl | rfl | rfl | rfl
    <;> simp [Char.isDigit] at hc

theorem Derives.closed {X : Symbol} {w : List Char} {e : Formula} (h : Derives X w e) :
    Closed w := by
  induction h with
  | conditional _ h₂ _ h₄ _ ih₁ ih₃ ih₅ =>
    obtain ⟨o₂, a₂, -⟩ := h₂.measures
    obtain ⟨o₄, a₄, -⟩ := h₄.measures
    refine Closed.append_left ⟨?_, ?_⟩ ih₅
    · rw [opens_append, opens_append, opens_append, ih₁.1, o₂, ih₃.1, o₄]
      decide
    · rw [asks_append, asks_append, asks_append, ih₁.2.1, a₂, ih₃.2.1, a₄]
      decide
  | disjunction _ ih | operand _ ih | primary _ ih => exact ih
  | link _ hop h₂ _ ih₁ ih₃ =>
    obtain ⟨o₂, a₂, -⟩ := h₂.measures
    obtain ⟨ot, at', -⟩ := Tier.token_awaits hop
    refine Closed.append_left ⟨?_, ?_⟩ ih₃
    · rw [opens_append, ih₁.1, o₂, ot]
      rfl
    · rw [asks_append, ih₁.2.1, a₂, at']
      rfl
  | not h₁ _ ih =>
    obtain ⟨o₁, a₁, -⟩ := h₁.measures
    exact Closed.append_left ⟨by rw [o₁]; decide, by rw [a₁]; decide⟩ ih
  | var h =>
    obtain ⟨b, hb, rfl⟩ := h
    refine ⟨?_, ?_, 'n', lastSolid_snoc (by decide) b, by decide⟩
    · rw [opens_append, hb.opens]
      decide
    · rw [asks_append, hb.asks]
      decide
  | num h hne hds _ =>
    obtain ⟨b, hb, rfl⟩ := h
    obtain ⟨ds, c, rfl⟩ := (List.eq_nil_or_concat' _).resolve_left hne
    have hc : c.isDigit := hds c (by simp)
    have hnone : ∀ x : Char, x.isDigit = false → (ds ++ [c]).count x = 0 := fun x hx =>
      List.count_eq_zero.2 fun hm => by rw [hds x hm] at hx; cases hx
    refine ⟨?_, ?_, c, ?_, digit_not_mem_openers hc⟩
    · rw [opens_append, hb.opens, zero_add]
      simp [Formula.opens, hnone '(' rfl, hnone ')' rfl]
    · rw [asks_append, hb.asks, zero_add]
      simp [Formula.asks, hnone '?' rfl, hnone ':' rfl]
    · rw [← List.append_assoc]
      exact lastSolid_snoc (not_isBlank_of_isDigit hc) _
  | paren h₁ _ h₃ ih =>
    obtain ⟨o₁, a₁, -⟩ := h₁.measures
    obtain ⟨b, hb, rfl⟩ := h₃
    refine ⟨?_, ?_, ')', ?_, by decide⟩
    · rw [opens_append, opens_append, opens_append, o₁, ih.1, hb.opens]
      decide
    · rw [asks_append, asks_append, asks_append, a₁, ih.2.1, hb.asks]
      decide
    · rw [← List.append_assoc]
      exact lastSolid_snoc (by decide) _

theorem Sentence.not_pending {s : List Char} {e : Formula} (h : Sentence s e) : ¬ Pending s := by
  obtain ⟨w, b, rfl, hb, hw⟩ := h
  obtain ⟨ho, ha, c, hc, hno⟩ := hw.closed
  refine Closed.not_pending ⟨by simp [ho, hb], by simp [ha, hb], c, ?_, hno⟩
  rw [lastSolid_append, hb.lastSolid, Option.none_or, hc]

/-! ### Starts of phrases -/

/-- `w` starts a phrase of `X`: some text completes it to one. -/
def Begins (X : Symbol) (w : List Char) : Prop :=
  ∃ x e, Derives X (w ++ x) e

section Begins

variable {w w₀ w₁ w₂ w₃ w₄ w₅ b : List Char} {c y : Formula}

theorem isToken_self (tok : List Char) : IsToken tok tok :=
  ⟨[], fun _ h => absurd h List.not_mem_nil, rfl⟩

theorem Derives.var_unary : Derives .unary ['n'] .var :=
  .primary (.var (isToken_self ['n']))

theorem Derives.var_tier (t : Tier) : Derives (.tier t) ['n'] .var := by
  have hm : Derives (.tier .multiplicative) ['n'] .var := .operand var_unary
  have ha : Derives (.tier .additive) ['n'] .var := .operand hm
  have hr : Derives (.tier .relational) ['n'] .var := .operand ha
  have he : Derives (.tier .equality) ['n'] .var := .operand hr
  have hc : Derives (.tier .conjunction) ['n'] .var := .operand he
  cases t with
  | multiplicative => exact hm
  | additive => exact ha
  | relational => exact hr
  | equality => exact he
  | conjunction => exact hc
  | disjunction => exact .operand hc

theorem Derives.var_formula : Derives .formula ['n'] .var :=
  .disjunction (var_tier .disjunction)

theorem Begins.formula (h : Begins (.tier .disjunction) w) : Begins .formula w := by
  obtain ⟨x, e, d⟩ := h
  exact ⟨x, e, .disjunction d⟩

theorem Begins.operand {t : Tier} (h : Begins t.operandSymbol w) : Begins (.tier t) w := by
  obtain ⟨x, e, d⟩ := h
  exact ⟨x, e, .operand d⟩

theorem Begins.ifTrue (d₁ : Derives (.tier .disjunction) w₁ c) (h₂ : IsToken ['?'] w₂)
    (h₃ : Begins .formula w₃) : Begins .formula (w₁ ++ w₂ ++ w₃) := by
  obtain ⟨x, y, d₃⟩ := h₃
  refine ⟨x ++ [':', 'n'], .ternary c y .var, ?_⟩
  simpa using Derives.conditional d₁ h₂ d₃ (isToken_self [':']) Derives.var_formula

theorem Begins.colon (d₁ : Derives (.tier .disjunction) w₁ c) (h₂ : IsToken ['?'] w₂)
    (d₃ : Derives .formula w₃ y) (hb : Blanks b) : Begins .formula (w₁ ++ w₂ ++ w₃ ++ b) :=
  ⟨[':', 'n'], .ternary c y .var,
    by simpa using Derives.conditional d₁ h₂ d₃ ⟨b, hb, rfl⟩ Derives.var_formula⟩

theorem Begins.ifFalse (d₁ : Derives (.tier .disjunction) w₁ c) (h₂ : IsToken ['?'] w₂)
    (d₃ : Derives .formula w₃ y) (h₄ : IsToken [':'] w₄) (h₅ : Begins .formula w₅) :
    Begins .formula (w₁ ++ w₂ ++ w₃ ++ w₄ ++ w₅) := by
  obtain ⟨x, n, d₅⟩ := h₅
  exact ⟨x, .ternary c y n, by simpa using Derives.conditional d₁ h₂ d₃ h₄ d₅⟩

theorem Begins.link {t : Tier} {tok : List Char} {op : BinOp} {l : Formula}
    (d₀ : Derives (.tier t) w₀ l) (hop : (tok, op) ∈ t.tokens) (h₂ : IsToken tok w₂)
    (h₃ : Begins t.operandSymbol w₃) : Begins (.tier t) (w₀ ++ w₂ ++ w₃) := by
  obtain ⟨x, r, d₃⟩ := h₃
  exact ⟨x, .binary op l r, by simpa using Derives.link d₀ hop h₂ d₃⟩

theorem Begins.not (h₁ : IsToken ['!'] w₁) (h₂ : Begins .unary w₂) :
    Begins .unary (w₁ ++ w₂) := by
  obtain ⟨x, e, d₂⟩ := h₂
  exact ⟨x, .not e, by simpa using Derives.not h₁ d₂⟩

theorem Begins.unary (hb : Blanks b) (h : Begins .primary w) : Begins .unary (b ++ w) := by
  obtain ⟨x, e, d⟩ := h
  exact ⟨x, e, by simpa using Derives.primary (d.blanks_append hb)⟩

theorem Begins.paren (h : Begins .formula w) : Begins .primary ('(' :: w) := by
  obtain ⟨x, e, d⟩ := h
  exact ⟨x ++ [')'], e, by simpa using Derives.paren (isToken_self ['(']) d (isToken_self [')'])⟩

theorem Begins.close (d : Derives .formula w c) (hb : Blanks b) :
    Begins .primary ('(' :: (w ++ b)) :=
  ⟨[')'], c, by simpa using Derives.paren (isToken_self ['(']) d ⟨b, hb, rfl⟩⟩

theorem Begins.primary_nil : Begins .primary [] :=
  ⟨['n'], .var, .var (isToken_self ['n'])⟩

end Begins

/-! ### Failed steps -/

theorem Outcome.bind_eq_fail {o : Outcome} {k : Formula → List Char → Outcome} {r : List Char} :
    o.bind k = .fail r ↔ o = .fail r ∨ ∃ e r', o = .ok e r' ∧ k e r' = .fail r := by
  cases o <;> simp

/-- What a step that failed before `r` of `s` has read: a pending start of a phrase of its goal's
symbol; for the links of a chain, such a start after any phrase of the tree built so far. -/
def Goal.Stuck : Goal → List Char → List Char → Prop
  | .links t lhs, s, r => ∀ w₀, Derives (.tier t) w₀ lhs →
      ∃ w, s = w ++ r ∧ Begins (.tier t) (w₀ ++ w) ∧ Pending (w₀ ++ w)
  | g, s, r => ∃ w, s = w ++ r ∧ Begins g.symbol w ∧ Pending w

theorem Tier.operand_stuck {t : Tier} {s r : List Char} :
    t.operand.Stuck s r ↔ ∃ w, s = w ++ r ∧ Begins t.operandSymbol w ∧ Pending w := by
  cases t <;> rfl

/-- Every failed reading of `g` from `s`, at any depth, is stuck in a pending start of a phrase. -/
def Stalls (L : Nat) (g : Goal) (s : List Char) : Prop :=
  ∀ d r, (step L g d s).outcome = .fail r → g.Stuck s r

/-- A marker token after text that closes what it opens, with blanks in front, awaits an
operand. -/
theorem awaitsOperand_token {u b : List Char} {c : Char} (hu : 0 ≤ opens u ∧ 0 ≤ asks u)
    (hb : Blanks b) (hc : c ∈ openers) (ho : 0 ≤ opens [c]) (ha : 0 ≤ asks (u ++ [c])) :
    AwaitsOperand (u ++ (b ++ [c])) := by
  rw [← List.append_assoc]
  refine awaitsOperand_snoc ?_ ?_ hc
  · simp only [opens_append, hb.opens]
    omega
  · simp only [asks_append, hb.asks] at ha ⊢
    omega

variable {L : Nat}

theorem stalls_conditional {s : List Char} (hor : Stalls L (.chain .disjunction) s)
    (hcond : ∀ s', s'.length < s.length → Stalls L .conditional s') : Stalls L .conditional s := by
  intro d r h
  rw [outcome_conditional, Outcome.bind_eq_fail] at h
  rcases h with hc | ⟨c, r₀, hc, h⟩
  · obtain ⟨w, hs, hb, hp⟩ := hor d r hc
    exact ⟨w, hs, hb.formula, hp⟩
  obtain ⟨w₁, hs, d₁⟩ := sound (.chain .disjunction) s d c r₀ hc
  obtain ⟨o₁, a₁, -⟩ := d₁.closed
  split at h
  next r₁ hq =>
    obtain ⟨b₂, hb₂, hr₀⟩ := skipBlanks_eq_cons hq
    have hu : AwaitsOperand (w₁ ++ (b₂ ++ ['?'])) :=
      awaitsOperand_token ⟨by omega, by omega⟩ hb₂ (by decide) (by decide)
        (by rw [asks_append, a₁]; decide)
    split at h
    next =>
      rw [Outcome.bind_eq_fail] at h
      rcases h with hy | ⟨y, r₂, hy, h⟩
      · obtain ⟨w₃, hr₁, hb₃, hp₃⟩ := hcond r₁ (by simp [hs, hr₀]; omega) (d + 1) r hy
        refine ⟨w₁ ++ (b₂ ++ ['?']) ++ w₃, by simp [hs, hr₀, hr₁],
          hb₃.ifTrue d₁ ⟨b₂, hb₂, rfl⟩, hu.pending hp₃⟩
      obtain ⟨w₃, hr₁, d₃⟩ := sound .conditional r₁ (d + 1) y r₂ hy
      obtain ⟨o₃, a₃, -⟩ := d₃.closed
      split at h
      next r₃ hq' =>
        obtain ⟨b₄, hb₄, hr₂⟩ := skipBlanks_eq_cons hq'
        rw [Outcome.bind_eq_fail] at h
        rcases h with hn | ⟨_, _, _, h⟩
        · obtain ⟨w₅, hr₃, hb₅, hp₅⟩ :=
            hcond r₃ (by simp [hs, hr₀, hr₁, hr₂]; omega) (d + 1) r hn
          have hu' : AwaitsOperand (w₁ ++ (b₂ ++ ['?']) ++ w₃ ++ (b₄ ++ [':'])) :=
            awaitsOperand_token ⟨by simp [o₁, o₃, hb₂], by simp [a₁, a₃, hb₂]⟩ hb₄
              (by decide) (by decide) (by simp [a₁, a₃, hb₂])
          refine ⟨w₁ ++ (b₂ ++ ['?']) ++ w₃ ++ (b₄ ++ [':']) ++ w₅,
            by simp [hs, hr₀, hr₁, hr₂, hr₃],
            hb₅.ifFalse d₁ ⟨b₂, hb₂, rfl⟩ d₃ ⟨b₄, hb₄, rfl⟩, hu'.pending hp₅⟩
        · cases h
      next hq' =>
        obtain rfl : skipBlanks r₂ = r := by simpa using h
        obtain ⟨b₄, hb₄, hr₂⟩ := blanks_append_skipBlanks r₂
        refine ⟨w₁ ++ (b₂ ++ ['?']) ++ w₃ ++ b₄, by simp [hs, hr₀, hr₁, ← hr₂],
          Begins.colon d₁ ⟨b₂, hb₂, rfl⟩ d₃ hb₄, ?_⟩
        refine ⟨by simp [o₁, o₃, hb₂, hb₄], by simp [a₁, a₃, hb₂, hb₄], .inr (.inl ?_)⟩
        simp [a₁, a₃, hb₂, hb₄]
    next => cases h
  next => cases h

theorem stalls_chain {t : Tier} {s : List Char} (hop : Stalls L t.operand s)
    (hlinks : ∀ s', s'.length ≤ s.length → ∀ lhs, Stalls L (.links t lhs) s') :
    Stalls L (.chain t) s := by
  intro d r h
  rw [outcome_chain, Outcome.bind_eq_fail] at h
  rcases h with hl | ⟨lhs, r₀, hl, h⟩
  · obtain ⟨w, hs, hb, hp⟩ := Tier.operand_stuck.1 (hop d r hl)
    exact ⟨w, hs, hb.operand, hp⟩
  · obtain ⟨w₀, hs, d₀⟩ := Tier.operand_consumed.1 (sound t.operand s d lhs r₀ hl)
    obtain ⟨w, hr₀, hb, hp⟩ :=
      hlinks r₀ (suffix_of_outcome hl).length_le lhs d r h w₀ (.operand d₀)
    exact ⟨w₀ ++ w, by rw [hs, hr₀, List.append_assoc], hb, hp⟩

theorem stalls_links {t : Tier} {lhs : Formula} {s : List Char}
    (hop : ∀ s', s'.length < s.length → Stalls L t.operand s')
    (hlinks : ∀ s', s'.length < s.length → ∀ lhs', Stalls L (.links t lhs') s') :
    Stalls L (.links t lhs) s := by
  intro d r h w₀ d₀
  cases ho : t.operator (skipBlanks s) with
  | none =>
    rw [outcome_links_none L d lhs ho] at h
    cases h
  | some p =>
    obtain ⟨op, r₁⟩ := p
    obtain ⟨tok, htok, hsk⟩ := Tier.operator_eq_some ho
    obtain ⟨b, hb, hs⟩ := blanks_append_skipBlanks s
    have h₁ := length_lt_of_operator ho
    have hu : AwaitsOperand (w₀ ++ (b ++ tok)) := by
      obtain ⟨o₀, a₀, -⟩ := d₀.closed
      obtain ⟨ot, at', c, hc, hco⟩ := Tier.token_awaits htok
      refine ⟨by simp [o₀, ot, hb], by simp [a₀, at', hb], fun c' hc' => ?_⟩
      rw [lastSolid_append, lastSolid_append, hc, Option.some_or, Option.some_or] at hc'
      cases hc'
      exact hco
    rw [outcome_links_some L d lhs ho] at h
    split at h
    next =>
      rw [Outcome.bind_eq_fail] at h
      rcases h with hr | ⟨rhs, r₂, hr₂, h⟩
      · obtain ⟨w₃, hr₁, hb₃, hp₃⟩ := Tier.operand_stuck.1 (hop r₁ h₁ (d + 1) r hr)
        refine ⟨b ++ tok ++ w₃, by rw [hs, hsk, hr₁]; simp, ?_, ?_⟩
        · simpa using hb₃.link d₀ htok ⟨b, hb, rfl⟩
        · simpa using hu.pending hp₃
      · obtain ⟨w₃, hr₁, d₃⟩ := Tier.operand_consumed.1 (sound t.operand r₁ (d + 1) rhs r₂ hr₂)
        have h₂ : r₂.length < s.length := by simp [hr₁] at h₁; omega
        obtain ⟨w, hr₂', hbw, hpw⟩ := hlinks r₂ h₂ _ (d + 1) r h (w₀ ++ (b ++ tok) ++ w₃)
          (.link d₀ htok ⟨b, hb, rfl⟩ d₃)
        refine ⟨b ++ tok ++ w₃ ++ w, by rw [hs, hsk, hr₁, hr₂']; simp, ?_, ?_⟩
        · simpa using hbw
        · simpa using hpw
    next => cases h

theorem stalls_unary {s : List Char} (hun : ∀ s', s'.length < s.length → Stalls L .unary s')
    (hprim : ∀ s', s'.length ≤ s.length → Stalls L .primary s') : Stalls L .unary s := by
  intro d r h
  obtain ⟨b, hb, hs⟩ := blanks_append_skipBlanks s
  by_cases hbang : ∃ r₁, skipBlanks s = '!' :: r₁
  · obtain ⟨r₁, hr₁⟩ := hbang
    rw [outcome_unary_bang L d hr₁] at h
    split at h
    next =>
      rw [Outcome.bind_eq_fail] at h
      rcases h with h | ⟨_, _, _, h⟩
      · obtain ⟨w₂, hr, hb₂, hp₂⟩ := hun r₁ (length_lt_of_skipBlanks_eq_cons hr₁) (d + 1) r h
        have hu : AwaitsOperand ([] ++ (b ++ ['!'])) :=
          awaitsOperand_token ⟨le_refl _, le_refl _⟩ hb (by decide) (by decide) (by decide)
        refine ⟨b ++ ['!'] ++ w₂, by rw [hs, hr₁, hr]; simp, hb₂.not ⟨b, hb, rfl⟩, ?_⟩
        simpa using hu.pending hp₂
      · cases h
    next => cases h
  · rw [outcome_unary_primary L d fun r₁ hr₁ => hbang ⟨r₁, hr₁⟩] at h
    obtain ⟨w, hw, hbw, hpw⟩ := hprim _ (skipBlanks_length_le s) d r h
    exact ⟨b ++ w, by rw [hs, hw, List.append_assoc], hbw.unary hb, hb.awaitsOperand.pending hpw⟩

theorem stalls_primary {s : List Char}
    (hcond : ∀ s', s'.length < s.length → Stalls L .conditional s') : Stalls L .primary s := by
  intro d r h
  by_cases hn : ∃ r₀, s = 'n' :: r₀
  · obtain ⟨r₀, rfl⟩ := hn
    rw [outcome_var] at h
    cases h
  by_cases hp : ∃ r₀, s = '(' :: r₀
  · obtain ⟨r₀, rfl⟩ := hp
    have hu : AwaitsOperand ([] ++ ([] ++ ['('])) :=
      awaitsOperand_token ⟨le_refl _, le_refl _⟩ (by simp [Blanks]) (by decide) (by decide)
        (by decide)
    rw [outcome_paren] at h
    split at h
    next =>
      rw [Outcome.bind_eq_fail] at h
      rcases h with h | ⟨e, r₂, he, h⟩
      · obtain ⟨w, hr₀, hbw, hpw⟩ := hcond r₀ (by simp) (d + 1) r h
        exact ⟨'(' :: w, by rw [hr₀]; rfl, hbw.paren, by simpa using hu.pending hpw⟩
      · obtain ⟨w₂, hr₀, d₂⟩ := sound .conditional r₀ (d + 1) e r₂ he
        obtain ⟨o₂, a₂, -⟩ := d₂.closed
        split at h
        next => cases h
        next =>
          obtain rfl : skipBlanks r₂ = r := by simpa using h
          obtain ⟨b, hb, hr₂⟩ := blanks_append_skipBlanks r₂
          refine ⟨'(' :: (w₂ ++ b),
            by rw [hr₀, List.cons_append, List.append_assoc, ← hr₂], Begins.close d₂ hb,
            by simp [o₂, hb], by simp [a₂, hb], .inl ?_⟩
          simp [o₂, hb]
    next => cases h
  · rw [outcome_literal L d (fun r₀ h₀ => hn ⟨r₀, h₀⟩) (fun r₀ h₀ => hp ⟨r₀, h₀⟩)] at h
    split at h
    next => cases h
    next =>
      obtain rfl : s = r := by simpa using h
      exact ⟨[], rfl, Begins.primary_nil, Pending.nil⟩

/-- Every failed reading step is stuck in a pending start of a phrase, by induction along the
reader's calls. -/
theorem stalls (g : Goal) (s : List Char) : Stalls L g s :=
  goal_induction (fun _ => stalls_conditional) (fun _ _ => stalls_chain)
    (fun _ _ _ => stalls_links) (fun _ => stalls_unary) (fun _ => stalls_primary) g s

/-! ### Where a whole text stops -/

theorem Blanks.nil : Blanks [] := fun _ h => absurd h List.not_mem_nil

theorem Sentence.read_ok {text : String} {e : Formula} (h : Sentence text.toList e)
    {limits : Limits} (hl : text.length ≤ limits.maxDepth) : read limits text = .ok e := by
  have hne := outcome_ne_tooDeep (L := limits.maxDepth) .conditional 0 text.toList
    (by rw [String.length_toList]; omega)
  obtain ⟨r, hb, hr⟩ := h.reads limits.maxDepth
  exact read_eq_ok.2 ⟨r, hr.resolve_right hne, hb⟩

/-- A sentence starts a text, itself, that reads as one tree under every limit at least its
length. -/
theorem Sentence.completes {u : List Char} {e : Formula} (h : Sentence u e) :
    ∃ t : String, u <+: t.toList ∧ ∃ e, ∀ limits : Limits, t.length ≤ limits.maxDepth →
      read limits t = .ok e :=
  ⟨String.ofList u, by simp, e, fun _ hl => Sentence.read_ok (by rwa [String.toList_ofList]) hl⟩

theorem Begins.completes {u : List Char} (h : Begins .formula u) :
    ∃ t : String, u <+: t.toList ∧ ∃ e, ∀ limits : Limits, t.length ≤ limits.maxDepth →
      read limits t = .ok e := by
  obtain ⟨x, e, d⟩ := h
  obtain ⟨t, ht, hread⟩ := Sentence.completes (u := u ++ x) ⟨u ++ x, [], by simp, Blanks.nil, d⟩
  exact ⟨t, (List.prefix_append u x).trans ht, hread⟩

theorem stoppedAt_append {consumed rest : List Char} {d d' : Detail} {line column : Nat}
    (h : stoppedAt (consumed ++ rest) rest d = .malformed line column d') :
    Position.after consumed = ⟨line, column⟩ ∧ d' = d := by
  simp only [stoppedAt, consumedBefore_append, ParseError.malformed.injEq] at h
  obtain ⟨hl, hc, hd⟩ := h
  exact ⟨by rw [← hl, ← hc], hd.symm⟩

/-- Where reading a whole text stops with a syntax error: inside the formula, after a pending
start of one, with the detail the rest of the text gives; or after a whole sentence, before a
character that cannot continue it, which the detail names. -/
theorem read_stops {limits : Limits} {text : String} {line column : Nat} {detail : Detail}
    (h : read limits text = .error (.malformed line column detail)) :
    ∃ consumed rest, text.toList = consumed ++ rest ∧ Position.after consumed = ⟨line, column⟩ ∧
      (Begins .formula consumed ∧ Pending consumed ∧ detail = failureDetail rest ∨
        (∃ e, Sentence consumed e) ∧ ∃ c r, rest = c :: r ∧ detail = .unexpected c) := by
  unfold read at h
  dsimp only at h
  split at h
  next => cases h
  next r _ hs =>
    have hf : (step limits.maxDepth .conditional 0 text.toList).outcome = .fail r := by
      rw [hs]
      rfl
    obtain ⟨w, htext, hb, hp⟩ := stalls .conditional text.toList 0 r hf
    have h' := Except.error.inj h
    rw [htext] at h'
    obtain ⟨hpos, hd⟩ := stoppedAt_append h'
    exact ⟨w, r, htext, hpos, .inl ⟨hb, hp, hd⟩⟩
  next e r _ hs =>
    have hf : (step limits.maxDepth .conditional 0 text.toList).outcome = .ok e r := by
      rw [hs]
      rfl
    obtain ⟨w, htext, dw⟩ := sound .conditional text.toList 0 e r hf
    split at h
    next => cases h
    next c rest hc =>
      obtain ⟨b, hb, hr⟩ := blanks_append_skipBlanks r
      rw [hc] at hr
      have htext' : text.toList = w ++ b ++ c :: rest := by rw [htext, hr, List.append_assoc]
      have h' := Except.error.inj h
      rw [htext'] at h'
      obtain ⟨hpos, hd⟩ := stoppedAt_append h'
      exact ⟨w ++ b, c :: rest, htext', hpos, .inr ⟨⟨e, w, b, rfl, hb, dw⟩, c, rest, rfl, hd⟩⟩

end Formula

end PluralForms
