import Mathlib
import PluralForms.Proofs.Reading
import PluralForms.Proofs.Grammar

/-!
# The reader recognises the grammar

As long as the nesting limit is not reached, `Formula.read` accepts exactly the sentences of the
grammar of `Proofs.Grammar` and returns their derivation trees; every other text is a syntax
error, and the limit is never reached when it is at least the length of the text.

The proof has two halves.

* Soundness, along the reader's own measure: a successful step has consumed a phrase of its
  goal's symbol and returns that phrase's tree. A chain is read as its first operand and then its
  links, so the statement for links speaks of every derivation of the tree built so far.
* Completeness, by induction on derivations: a phrase followed by a text that cannot continue it
  is read back whole. The binary rule is left-recursive, so a phrase of a tier is read up to the
  state in which the chain would go on with another link, at a depth that grew by its links.

The first section relates the grammar's blanks and tokens to `skipBlanks` and `Tier.operator`.
-/

namespace PluralForms

namespace Formula

open Text

section Tokens

theorem isBlank_iff {c : Char} : isBlank c = true ↔ IsBlank c := by
  simp [isBlank, IsBlank, or_assoc]

theorem skipBlanks_blanks_append {b : List Char} (hb : Blanks b) (s : List Char) :
    skipBlanks (b ++ s) = skipBlanks s :=
  List.dropWhile_append_of_pos fun c hc => isBlank_iff.2 (hb c hc)

theorem skipBlanks_of_blanks {b : List Char} (hb : Blanks b) : skipBlanks b = [] := by
  have h := skipBlanks_blanks_append hb []
  rwa [List.append_nil] at h

theorem skipBlanks_cons {c : Char} (hc : ¬ IsBlank c) (s : List Char) :
    skipBlanks (c :: s) = c :: s :=
  List.dropWhile_cons_of_neg (by rwa [isBlank_iff])

theorem blanks_append_skipBlanks (s : List Char) : ∃ b, Blanks b ∧ s = b ++ skipBlanks s :=
  ⟨s.takeWhile isBlank, fun _ hc => isBlank_iff.1 (List.mem_takeWhile_imp hc),
    List.takeWhile_append_dropWhile.symm⟩

theorem skipBlanks_eq_cons {s r : List Char} {c : Char} (h : skipBlanks s = c :: r) :
    ∃ b, Blanks b ∧ s = b ++ c :: r := by
  obtain ⟨b, hb, hs⟩ := blanks_append_skipBlanks s
  exact ⟨b, hb, h ▸ hs⟩

theorem IsToken.skipBlanks {c : Char} {tok w : List Char} (hw : IsToken (c :: tok) w)
    (hc : ¬ IsBlank c) (x : List Char) : skipBlanks (w ++ x) = c :: (tok ++ x) := by
  obtain ⟨b, hb, rfl⟩ := hw
  rw [List.append_assoc, skipBlanks_blanks_append hb]
  exact skipBlanks_cons hc _

theorem not_isBlank_of_isDigit {c : Char} (hc : c.isDigit) : ¬ IsBlank c := by
  rintro (rfl | rfl | rfl | rfl | rfl) <;> simp_all [Char.isDigit]

theorem startsWithDigit_blanks_append {b : List Char} {c : Char} (hb : Blanks b)
    (hc : c.isDigit = false) (x : List Char) : startsWithDigit (b ++ c :: x) = false := by
  cases b with
  | nil => exact hc
  | cons c' b =>
    have h := hb c' List.mem_cons_self
    simp only [List.cons_append, startsWithDigit]
    rcases h with rfl | rfl | rfl | rfl | rfl <;> rfl

theorem Tier.operator_eq_some {t : Tier} {s r : List Char} {op : BinOp}
    (h : t.operator s = some (op, r)) : ∃ tok, (tok, op) ∈ t.tokens ∧ s = tok ++ r := by
  unfold Tier.operator at h
  split at h <;> simp only [Option.some.injEq, Prod.mk.injEq, reduceCtorEq] at h
  all_goals
    obtain ⟨rfl, rfl⟩ := h
    simp [Tier.tokens]

/-- A token of the table is scanned as its operator unless a `=` follows it, which would make
`<` into `<=` and `>` into `>=`. -/
theorem Tier.operator_token {t : Tier} {tok x : List Char} {op : BinOp}
    (h : (tok, op) ∈ t.tokens) (hx : ∀ x', x ≠ '=' :: x') :
    t.operator (tok ++ x) = some (op, x) := by
  cases t <;> cases op <;> simp [Tier.tokens] at h <;> subst h
  all_goals
    unfold Tier.operator
    split <;> grind

theorem Tier.operator_token_tighter {t t' : Tier} {tok x : List Char} {op : BinOp}
    (h : (tok, op) ∈ t.tokens) (hlt : t'.level < t.level) : t'.operator (tok ++ x) = none := by
  cases t <;> cases t' <;> simp [Tier.level] at hlt
  all_goals
    cases op <;> simp [Tier.tokens] at h
    all_goals
      subst h
      rfl

/-- Every operator token starts with a character that is neither a blank, nor a digit, nor
the `?` of a conditional. -/
theorem Tier.token_head {t : Tier} {tok : List Char} {op : BinOp} (h : (tok, op) ∈ t.tokens) :
    ∃ c tok', tok = c :: tok' ∧ ¬ IsBlank c ∧ c.isDigit = false ∧ c ≠ '?' := by
  cases t <;> cases op <;> simp [Tier.tokens] at h
  all_goals
    subst h
    exact ⟨_, _, rfl, by decide, rfl, by decide⟩

theorem Tier.operator_closing {c : Char} (hc : c = '?' ∨ c = ':' ∨ c = ')') (t : Tier)
    (x : List Char) : t.operator (c :: x) = none := by
  rcases hc with rfl | rfl | rfl <;> cases t <;> rfl

namespace Goal.Stops

variable {g : Goal}

theorem token {b x : List Char} {c : Char} (hb : Blanks b) (hc : ¬ IsBlank c)
    (hd : c.isDigit = false) (hop : ∀ t : Tier, t.level < g.tiers → t.operator (c :: x) = none)
    (hq : 6 < g.tiers → c ≠ '?') : g.Stops (b ++ c :: x) := by
  have hs : skipBlanks (b ++ c :: x) = c :: x := by
    rw [skipBlanks_blanks_append hb, skipBlanks_cons hc]
  refine ⟨startsWithDigit_blanks_append hb hd x, fun t ht => by rw [hs]; exact hop t ht,
    fun h6 r' => ?_⟩
  rw [hs]
  intro he
  exact hq h6 (List.cons.inj he).1

theorem closing {b x : List Char} {c : Char} (hb : Blanks b) (hc : c = '?' ∨ c = ':' ∨ c = ')')
    (hq : 6 < g.tiers → c ≠ '?') : g.Stops (b ++ c :: x) :=
  token hb (by rcases hc with rfl | rfl | rfl <;> decide) (by rcases hc with rfl | rfl | rfl <;> rfl)
    (fun t _ => Tier.operator_closing hc t x) hq

theorem blanks {b : List Char} (hb : Blanks b) : g.Stops b := by
  have hs := skipBlanks_of_blanks hb
  refine ⟨?_, fun t _ => by rw [hs]; cases t <;> rfl, fun _ r' => by rw [hs]; simp⟩
  cases b with
  | nil => rfl
  | cons c b =>
    rcases hb c List.mem_cons_self with rfl | rfl | rfl | rfl | rfl <;> rfl

end Goal.Stops

end Tokens

section Soundness

/-- The grammar symbol a reading goal stands for. -/
def Goal.symbol : Goal → Symbol
  | .conditional => .formula
  | .chain t | .links t _ => .tier t
  | .unary => .unary
  | .primary => .primary

/-- What a successful step that left `r` of `s` has read: a phrase of its goal's symbol; and for
the links of a chain, the rest of a phrase of the tier that starts with any phrase of the tree
built so far. -/
def Goal.Consumed : Goal → List Char → Formula → List Char → Prop
  | .links t lhs, s, e, r =>
    ∀ w₀, Derives (.tier t) w₀ lhs → ∃ w, s = w ++ r ∧ Derives (.tier t) (w₀ ++ w) e
  | g, s, e, r => ∃ w, s = w ++ r ∧ Derives g.symbol w e

theorem Tier.operand_consumed {t : Tier} {s r : List Char} {e : Formula} :
    t.operand.Consumed s e r ↔ ∃ w, s = w ++ r ∧ Derives t.operandSymbol w e := by
  cases t <;> rfl

/-- Every successful reading of `g` from `s`, at any depth, has consumed a phrase. -/
def Sound (L : Nat) (g : Goal) (s : List Char) : Prop :=
  ∀ d e r, (step L g d s).outcome = .ok e r → g.Consumed s e r

variable {L : Nat}

theorem sound_conditional {s : List Char} (hor : Sound L (.chain .disjunction) s)
    (hcond : ∀ s', s'.length < s.length → Sound L .conditional s') : Sound L .conditional s := by
  intro d e r h
  rcases outcome_conditional_eq_ok h with hc | ⟨c, y, n, r₀, r₁, r₂, r₃, hc, hq, -, hy, hq', hn, rfl⟩
  · obtain ⟨w₁, hs, d₁⟩ := hor d e r hc
    exact ⟨w₁, hs, .disjunction d₁⟩
  · obtain ⟨w₁, hs, d₁⟩ := hor d c r₀ hc
    obtain ⟨b₂, hb₂, hr₀⟩ := skipBlanks_eq_cons hq
    obtain ⟨w₃, hr₁, d₃⟩ := hcond r₁ (by simp [hs, hr₀]; omega) (d + 1) y r₂ hy
    obtain ⟨b₄, hb₄, hr₂⟩ := skipBlanks_eq_cons hq'
    obtain ⟨w₅, hr₃, d₅⟩ := hcond r₃ (by simp [hs, hr₀, hr₁, hr₂]; omega) (d + 1) n r hn
    refine ⟨w₁ ++ (b₂ ++ ['?']) ++ w₃ ++ (b₄ ++ [':']) ++ w₅, ?_,
      .conditional d₁ ⟨b₂, hb₂, rfl⟩ d₃ ⟨b₄, hb₄, rfl⟩ d₅⟩
    simp [hs, hr₀, hr₁, hr₂, hr₃]

theorem sound_chain {t : Tier} {s : List Char} (hop : Sound L t.operand s)
    (hlinks : ∀ s', s'.length ≤ s.length → ∀ lhs, Sound L (.links t lhs) s') :
    Sound L (.chain t) s := by
  intro d e r h
  rw [outcome_chain] at h
  obtain ⟨lhs, r₀, hl, h⟩ := Outcome.bind_eq_ok.1 h
  obtain ⟨w₀, hs, d₀⟩ := Tier.operand_consumed.1 (hop d lhs r₀ hl)
  have hr₀ : r₀.length ≤ s.length := (suffix_of_outcome hl).length_le
  obtain ⟨w, hr, dw⟩ := hlinks r₀ hr₀ lhs d e r h w₀ (.operand d₀)
  exact ⟨w₀ ++ w, by rw [hs, hr, List.append_assoc], dw⟩

theorem sound_links {t : Tier} {lhs : Formula} {s : List Char}
    (hop : ∀ s', s'.length < s.length → Sound L t.operand s')
    (hlinks : ∀ s', s'.length < s.length → ∀ lhs', Sound L (.links t lhs') s') :
    Sound L (.links t lhs) s := by
  intro d e r h w₀ d₀
  cases ho : t.operator (skipBlanks s) with
  | none =>
    rw [outcome_links_none L d lhs ho, Outcome.ok.injEq] at h
    obtain ⟨rfl, rfl⟩ := h
    exact ⟨[], by simp, by simpa using d₀⟩
  | some p =>
    obtain ⟨op, r₁⟩ := p
    obtain ⟨tok, htok, hsk⟩ := Tier.operator_eq_some ho
    obtain ⟨b, hb, hs⟩ := blanks_append_skipBlanks s
    have h₁ := length_lt_of_operator ho
    obtain ⟨-, rhs, r₂, hrhs, h⟩ := outcome_links_some_eq_ok ho h
    obtain ⟨w₃, hr₁, d₃⟩ := Tier.operand_consumed.1 (hop r₁ h₁ (d + 1) rhs r₂ hrhs)
    have h₂ : r₂.length < s.length := by simp [hr₁] at h₁; omega
    obtain ⟨w, hr₂, dw⟩ := hlinks r₂ h₂ _ (d + 1) e r h (w₀ ++ (b ++ tok) ++ w₃)
      (.link d₀ htok ⟨b, hb, rfl⟩ d₃)
    refine ⟨b ++ tok ++ w₃ ++ w, ?_, by simpa [List.append_assoc] using dw⟩
    rw [hs, hsk, hr₁, hr₂]
    simp

theorem sound_unary {s : List Char} (hun : ∀ s', s'.length < s.length → Sound L .unary s')
    (hprim : ∀ s', s'.length ≤ s.length → Sound L .primary s') : Sound L .unary s := by
  intro d e r h
  obtain ⟨b, hb, hs⟩ := blanks_append_skipBlanks s
  by_cases hbang : ∃ r₁, skipBlanks s = '!' :: r₁
  · obtain ⟨r₁, hr₁⟩ := hbang
    obtain ⟨-, e', he', rfl⟩ := outcome_unary_bang_eq_ok hr₁ h
    obtain ⟨w₂, hr₂, d₂⟩ := hun r₁ (length_lt_of_skipBlanks_eq_cons hr₁) (d + 1) e' r he'
    refine ⟨(b ++ ['!']) ++ w₂, ?_, .not ⟨b, hb, rfl⟩ d₂⟩
    rw [hs, hr₁, hr₂]
    simp
  · rw [outcome_unary_primary L d fun r₁ hr₁ => hbang ⟨r₁, hr₁⟩] at h
    obtain ⟨w, hw, dw⟩ := hprim _ (skipBlanks_length_le s) d e r h
    exact ⟨b ++ w, by rw [hs, hw, List.append_assoc], .primary (dw.blanks_append hb)⟩

theorem sound_primary {s : List Char}
    (hcond : ∀ s', s'.length < s.length → Sound L .conditional s') : Sound L .primary s := by
  intro d e r h
  by_cases hn : ∃ r₀, s = 'n' :: r₀
  · obtain ⟨r₀, rfl⟩ := hn
    rw [outcome_var, Outcome.ok.injEq] at h
    obtain ⟨rfl, rfl⟩ := h
    exact ⟨['n'], rfl, .var ⟨[], by simp [Blanks], rfl⟩⟩
  by_cases hp : ∃ r₀, s = '(' :: r₀
  · obtain ⟨r₀, rfl⟩ := hp
    obtain ⟨-, r₂, he, hc⟩ := outcome_paren_eq_ok h
    obtain ⟨w₂, hr₀, d₂⟩ := hcond r₀ (by simp) (d + 1) e r₂ he
    obtain ⟨b, hb, hr₂⟩ := skipBlanks_eq_cons hc
    refine ⟨['('] ++ w₂ ++ (b ++ [')']), ?_,
      .paren ⟨[], by simp [Blanks], rfl⟩ d₂ ⟨b, hb, rfl⟩⟩
    simp [hr₀, hr₂]
  obtain ⟨v, hl, rfl⟩ :=
    outcome_literal_eq_ok (fun r₀ h₀ => hn ⟨r₀, h₀⟩) (fun r₀ h₀ => hp ⟨r₀, h₀⟩) h
  obtain ⟨ds, rfl, hne, hds, hv, rfl⟩ := readLiteral?_eq_some hl
  exact ⟨ds, rfl, .num ⟨[], by simp [Blanks], rfl⟩ hne hds hv⟩

theorem sound (g : Goal) (s : List Char) : Sound L g s :=
  goal_induction (fun _ => sound_conditional) (fun _ _ => sound_chain) (fun _ _ _ => sound_links)
    (fun _ => sound_unary) (fun _ => sound_primary) g s

end Soundness

section Completeness

/-- `o` is the outcome `o'`, unless the reading reached the nesting limit first. -/
def Outcome.UpToLimit (o o' : Outcome) : Prop :=
  o = o' ∨ o = .tooDeep

namespace Outcome.UpToLimit

theorem refl (o : Outcome) : o.UpToLimit o :=
  .inl rfl

theorem trans {o o' o'' : Outcome} (h : o.UpToLimit o') (h' : o'.UpToLimit o'') :
    o.UpToLimit o'' := by
  rcases h with rfl | rfl
  · exact h'
  · exact .inr rfl

theorem bind {o o' : Outcome} {e : Formula} {r : List Char} {k : Formula → List Char → Outcome}
    (h : o.UpToLimit (.ok e r)) (hk : (k e r).UpToLimit o') : (o.bind k).UpToLimit o' := by
  rcases h with rfl | rfl
  · exact hk
  · exact .inr rfl

theorem limit {c : Prop} [Decidable c] {o o' : Outcome} (h : o.UpToLimit o') :
    (if c then o else .tooDeep).UpToLimit o' := by
  split
  · exact h
  · exact .inr rfl

end Outcome.UpToLimit

theorem IsToken.stops {c : Char} {w : List Char} {g : Goal} (h : IsToken [c] w)
    (hc : c = '?' ∨ c = ':' ∨ c = ')') (hq : 6 < g.tiers → c ≠ '?') (x : List Char) :
    g.Stops (w ++ x) := by
  obtain ⟨b, hb, rfl⟩ := h
  rw [List.append_assoc]
  exact Goal.Stops.closing hb hc hq

namespace Derives

theorem head {X : Symbol} {w : List Char} {e : Formula} (h : Derives X w e) :
    ∃ b c w', Blanks b ∧ w = b ++ c :: w' ∧ ¬ IsBlank c ∧ c ≠ '=' := by
  induction h with
  | @conditional _ w₂ w₃ w₄ w₅ _ _ _ _ _ _ _ _ ih _ _ =>
    obtain ⟨b, c, w', hb, rfl, hc, he⟩ := ih
    exact ⟨b, c, w' ++ w₂ ++ w₃ ++ w₄ ++ w₅, hb, by simp, hc, he⟩
  | @link _ _ w₂ w₃ _ _ _ _ _ _ _ _ ih _ =>
    obtain ⟨b, c, w', hb, rfl, hc, he⟩ := ih
    exact ⟨b, c, w' ++ w₂ ++ w₃, hb, by simp, hc, he⟩
  | disjunction _ ih | operand _ ih | primary _ ih => exact ih
  | @not _ w₂ _ h₁ _ _ =>
    obtain ⟨b, hb, rfl⟩ := h₁
    exact ⟨b, '!', w₂, hb, by simp, by decide, by decide⟩
  | var h₁ =>
    obtain ⟨b, hb, rfl⟩ := h₁
    exact ⟨b, 'n', [], hb, rfl, by decide, by decide⟩
  | @paren _ w₂ w₃ _ h₁ _ _ _ =>
    obtain ⟨b, hb, rfl⟩ := h₁
    exact ⟨b, '(', w₂ ++ w₃, hb, by simp, by decide, by decide⟩
  | num h hne hds _ =>
    obtain ⟨b, hb, rfl⟩ := h
    obtain ⟨c, ds, rfl⟩ := List.exists_cons_of_ne_nil hne
    have hc := hds c List.mem_cons_self
    refine ⟨b, c, ds, hb, rfl, not_isBlank_of_isDigit hc, ?_⟩
    rintro rfl
    exact absurd hc (by decide)

theorem primary_head {w : List Char} {e : Formula} (h : Derives .primary w e) :
    ∃ b c w', Blanks b ∧ w = b ++ c :: w' ∧ ¬ IsBlank c ∧ c ≠ '!' := by
  cases h with
  | var h₁ =>
    obtain ⟨b, hb, rfl⟩ := h₁
    exact ⟨b, 'n', [], hb, rfl, by decide, by decide⟩
  | @paren _ w₂ w₃ _ h₁ _ _ =>
    obtain ⟨b, hb, rfl⟩ := h₁
    exact ⟨b, '(', w₂ ++ w₃, hb, by simp, by decide, by decide⟩
  | num h hne hds _ =>
    obtain ⟨b, hb, rfl⟩ := h
    obtain ⟨c, ds, rfl⟩ := List.exists_cons_of_ne_nil hne
    have hc := hds c List.mem_cons_self
    refine ⟨b, c, ds, hb, rfl, not_isBlank_of_isDigit hc, ?_⟩
    rintro rfl
    exact absurd hc (by decide)

theorem ne_eq_cons {X : Symbol} {w : List Char} {e : Formula} (h : Derives X w e)
    (r x : List Char) : w ++ r ≠ '=' :: x := by
  obtain ⟨b, c, w', hb, rfl, hc, he⟩ := h.head
  cases b with
  | nil =>
    intro h'
    exact he (List.cons.inj h').1
  | cons c' b =>
    have hc' := hb c' List.mem_cons_self
    intro h'
    simp only [List.cons_append, List.cons.injEq] at h'
    exact absurd (h'.1 ▸ hc') (by decide)

end Derives

/-- What reading a phrase of each symbol gives when the text after it cannot continue it: the
phrase's tree, unless the nesting limit is reached first. A phrase of a tier is read up to the
point where its chain would go on with another link, `k` levels deeper for its `k` links; a
primary phrase is read once its blanks are skipped. -/
def Reads : Symbol → List Char → Formula → Prop
  | .formula, w, e => ∀ L d r, Goal.conditional.Stops r →
      (step L .conditional d (w ++ r)).outcome.UpToLimit (.ok e r)
  | .tier t, w, e => ∃ k, ∀ L d r, t.operand.Stops r →
      (step L (.chain t) d (w ++ r)).outcome.UpToLimit (step L (.links t e) (d + k) r).outcome
  | .unary, w, e => ∀ L d r, Goal.unary.Stops r →
      (step L .unary d (w ++ r)).outcome.UpToLimit (.ok e r)
  | .primary, w, e => ∀ L d r, Goal.primary.Stops r →
      (step L .primary d (skipBlanks (w ++ r))).outcome.UpToLimit (.ok e r)

theorem Reads.chain {t : Tier} {w : List Char} {e : Formula} (h : Reads (.tier t) w e)
    (L d : Nat) {r : List Char} (hr : (Goal.chain t).Stops r) :
    (step L (.chain t) d (w ++ r)).outcome.UpToLimit (.ok e r) := by
  obtain ⟨k, hk⟩ := h
  refine (hk L d r hr.operand).trans ?_
  rw [outcome_links_none L (d + k) e hr.operator_none]
  exact .refl _

theorem Reads.operand {t : Tier} {w : List Char} {e : Formula} (h : Reads t.operandSymbol w e)
    (L d : Nat) {r : List Char} (hr : t.operand.Stops r) :
    (step L t.operand d (w ++ r)).outcome.UpToLimit (.ok e r) := by
  cases t with
  | multiplicative => exact h L d r hr
  | additive | relational | equality | conjunction | disjunction => exact h.chain L d hr

theorem reads_conditional {w₁ w₂ w₃ w₄ w₅ : List Char} {c y n : Formula}
    (h₁ : Reads (.tier .disjunction) w₁ c) (h₂ : IsToken ['?'] w₂) (h₃ : Reads .formula w₃ y)
    (h₄ : IsToken [':'] w₄) (h₅ : Reads .formula w₅ n) :
    Reads .formula (w₁ ++ w₂ ++ w₃ ++ w₄ ++ w₅) (.ternary c y n) := by
  intro L d r hr
  have hs : w₁ ++ w₂ ++ w₃ ++ w₄ ++ w₅ ++ r = w₁ ++ (w₂ ++ (w₃ ++ (w₄ ++ (w₅ ++ r)))) := by
    simp
  rw [hs, outcome_conditional]
  have hq : (Goal.chain .disjunction).Stops (w₂ ++ (w₃ ++ (w₄ ++ (w₅ ++ r)))) :=
    h₂.stops (.inl rfl) (by simp [Goal.tiers, Tier.level]) _
  have hc : Goal.conditional.Stops (w₄ ++ (w₅ ++ r)) := h₄.stops (.inr (.inl rfl)) (by decide) _
  refine (h₁.chain L d hq).bind ?_
  rw [h₂.skipBlanks (by decide)]
  refine .limit ((h₃ L (d + 1) _ hc).bind ?_)
  rw [h₄.skipBlanks (by decide)]
  exact (h₅ L (d + 1) r hr).bind (.refl _)

theorem reads_disjunction {w : List Char} {e : Formula} (h : Reads (.tier .disjunction) w e) :
    Reads .formula w e := by
  intro L d r hr
  rw [outcome_conditional]
  refine (h.chain L d hr.disjunction).bind ?_
  split
  next r₁ hq => exact absurd hq (hr.no_query r₁)
  next => exact .refl _

theorem reads_link {t : Tier} {w₁ w₂ w₃ tok : List Char} {op : BinOp} {l r' : Formula}
    (h₁ : Reads (.tier t) w₁ l) (hop : (tok, op) ∈ t.tokens) (h₂ : IsToken tok w₂)
    (d₃ : Derives t.operandSymbol w₃ r') (h₃ : Reads t.operandSymbol w₃ r') :
    Reads (.tier t) (w₁ ++ w₂ ++ w₃) (.binary op l r') := by
  obtain ⟨k, hk⟩ := h₁
  obtain ⟨c, tok', rfl, hc, hd, hq⟩ := Tier.token_head hop
  refine ⟨k + 1, fun L d r hr => ?_⟩
  have hstop : t.operand.Stops (w₂ ++ (w₃ ++ r)) := by
    obtain ⟨b, hb, rfl⟩ := h₂
    rw [List.append_assoc]
    refine Goal.Stops.token hb hc hd (fun t' ht' => ?_) fun _ => hq
    rw [Tier.operand_tiers] at ht'
    exact Tier.operator_token_tighter hop ht'
  have hs : w₁ ++ w₂ ++ w₃ ++ r = w₁ ++ (w₂ ++ (w₃ ++ r)) := by simp
  rw [hs]
  refine (hk L d _ hstop).trans ?_
  have ho : t.operator (skipBlanks (w₂ ++ (w₃ ++ r))) = some (op, w₃ ++ r) := by
    rw [h₂.skipBlanks hc]
    exact Tier.operator_token hop (d₃.ne_eq_cons r)
  rw [outcome_links_some L (d + k) l ho]
  exact .limit ((h₃.operand L (d + k + 1) hr).bind (.refl _))

theorem reads_operand {t : Tier} {w : List Char} {e : Formula} (h : Reads t.operandSymbol w e) :
    Reads (.tier t) w e := by
  refine ⟨0, fun L d r hr => ?_⟩
  rw [outcome_chain]
  exact (h.operand L d hr).bind (.refl _)

theorem reads_not {w₁ w₂ : List Char} {e : Formula} (h₁ : IsToken ['!'] w₁)
    (h₂ : Reads .unary w₂ e) : Reads .unary (w₁ ++ w₂) (.not e) := by
  intro L d r hr
  rw [List.append_assoc, outcome_unary_bang L d (h₁.skipBlanks (by decide) (w₂ ++ r))]
  exact .limit ((h₂ L (d + 1) r hr).bind (.refl _))

theorem reads_primary {w : List Char} {e : Formula} (hd : Derives .primary w e)
    (h : Reads .primary w e) : Reads .unary w e := by
  intro L d r hr
  obtain ⟨b, c, w', hb, rfl, hc, hbang⟩ := hd.primary_head
  have hs : skipBlanks (b ++ c :: w' ++ r) = c :: (w' ++ r) := by
    rw [List.append_assoc, skipBlanks_blanks_append hb, List.cons_append]
    exact skipBlanks_cons hc _
  have hnot : ∀ r', skipBlanks (b ++ c :: w' ++ r) ≠ '!' :: r' := by
    intro r' h'
    rw [hs] at h'
    exact hbang (List.cons.inj h').1
  rw [outcome_unary_primary L d hnot]
  exact h L d r hr

theorem reads_var {w : List Char} (h : IsToken ['n'] w) : Reads .primary w .var := by
  intro L d r _
  rw [h.skipBlanks (by decide), outcome_var]
  exact .refl _

theorem reads_num {w ds : List Char} (h : IsToken ds w) (hne : ds ≠ [])
    (hds : ∀ c ∈ ds, c.isDigit) (hv : Nat.ofDigitChars 10 ds 0 ≤ 2 ^ 63 - 1) :
    Reads .primary w (.num (Int64.ofNat (Nat.ofDigitChars 10 ds 0))) := by
  intro L d r hr
  obtain ⟨c, ds', rfl⟩ := List.exists_cons_of_ne_nil hne
  have hc : c.isDigit := hds c List.mem_cons_self
  have hl := readLiteral?_digits hne hds hv hr.1
  rw [List.cons_append] at hl
  have hn : ∀ r', c :: (ds' ++ r) ≠ 'n' :: r' := by
    intro r' h'
    rw [(List.cons.inj h').1] at hc
    exact absurd hc (by decide)
  have hp : ∀ r', c :: (ds' ++ r) ≠ '(' :: r' := by
    intro r' h'
    rw [(List.cons.inj h').1] at hc
    exact absurd hc (by decide)
  rw [h.skipBlanks (not_isBlank_of_isDigit hc), outcome_literal L d hn hp, hl]
  exact .refl _

theorem reads_paren {w₁ w₂ w₃ : List Char} {e : Formula} (h₁ : IsToken ['('] w₁)
    (h₂ : Reads .formula w₂ e) (h₃ : IsToken [')'] w₃) : Reads .primary (w₁ ++ w₂ ++ w₃) e := by
  intro L d r _
  have hs : w₁ ++ w₂ ++ w₃ ++ r = w₁ ++ (w₂ ++ (w₃ ++ r)) := by simp
  have hc : Goal.conditional.Stops (w₃ ++ r) := h₃.stops (.inr (.inr rfl)) (by decide) r
  rw [hs, h₁.skipBlanks (by decide), outcome_paren]
  refine .limit ((h₂ L (d + 1) _ hc).bind ?_)
  rw [h₃.skipBlanks (by decide)]
  exact .refl _

theorem reads {X : Symbol} {w : List Char} {e : Formula} (h : Derives X w e) : Reads X w e := by
  induction h with
  | conditional _ h₂ _ h₄ _ ih₁ ih₃ ih₅ =>
    exact reads_conditional ih₁ h₂ ih₃ h₄ ih₅
  | disjunction _ ih => exact reads_disjunction ih
  | link _ hop h₂ d₃ ih₁ ih₃ => exact reads_link ih₁ hop h₂ d₃ ih₃
  | operand _ ih => exact reads_operand ih
  | not h₁ _ ih => exact reads_not h₁ ih
  | primary hd ih => exact reads_primary hd ih
  | var h => exact reads_var h
  | num h hne hds hv => exact reads_num h hne hds hv
  | paren h₁ _ h₃ ih => exact reads_paren h₁ ih h₃

end Completeness

section Sentences

variable {limits : Limits} {text : String} {e : Formula}

theorem read_eq_ok : read limits text = .ok e ↔
    ∃ r, (step limits.maxDepth .conditional 0 text.toList).outcome = .ok e r ∧
      skipBlanks r = [] := by
  unfold read
  dsimp only
  split
  next h => simp [h]
  next h => simp [h]
  next e' r _ h =>
    simp only [h, Reply.outcome_ok, Outcome.ok.injEq]
    split
    next hr => simp [hr]
    next hr => simp [hr]

theorem read_of_tooDeep (h : (step limits.maxDepth .conditional 0 text.toList).outcome = .tooDeep) :
    read limits text = .error (.nestingTooDeep limits.maxDepth) := by
  unfold read
  dsimp only
  split
  next => rfl
  next hs => simp [hs] at h
  next hs => simp [hs] at h

theorem read_error {err : ParseError} (h : read limits text = .error err) :
    (step limits.maxDepth .conditional 0 text.toList).outcome = .tooDeep ∨
      ∃ line column detail, err = .malformed line column detail := by
  unfold read at h
  dsimp only at h
  split at h
  next hs => exact .inl (by rw [hs]; rfl)
  next => exact .inr ⟨_, _, _, (Except.error.inj h).symm⟩
  next =>
    split at h
    next => cases h
    next => exact .inr ⟨_, _, _, (Except.error.inj h).symm⟩

/-- Soundness for whole texts: an accepted text is a sentence and the tree returned is its
derivation tree. -/
theorem read_sentence (h : read limits text = .ok e) : Sentence text.toList e := by
  obtain ⟨r, hr, hb⟩ := read_eq_ok.1 h
  obtain ⟨w, hs, hw⟩ := sound .conditional text.toList 0 e r hr
  obtain ⟨b, hb', hr'⟩ := blanks_append_skipBlanks r
  rw [hb, List.append_nil] at hr'
  exact ⟨w, r, hs, hr' ▸ hb', hw⟩

theorem Sentence.reads {s : List Char} (h : Sentence s e) (L : Nat) :
    ∃ r, skipBlanks r = [] ∧ (step L .conditional 0 s).outcome.UpToLimit (.ok e r) := by
  obtain ⟨w, b, rfl, hb, hw⟩ := h
  exact ⟨b, skipBlanks_of_blanks hb, Formula.reads hw L 0 b (Goal.Stops.blanks hb)⟩

/-- Completeness for whole texts: a sentence is accepted with its tree, unless the nesting limit
is reached first. -/
theorem sentence_read (h : Sentence text.toList e) :
    read limits text = .ok e ∨ read limits text = .error (.nestingTooDeep limits.maxDepth) := by
  obtain ⟨r, hb, hr⟩ := h.reads limits.maxDepth
  rcases hr with hr | hr
  · exact .inl (read_eq_ok.2 ⟨r, hr, hb⟩)
  · exact .inr (read_of_tooDeep hr)

theorem Sentence.tree_unique {s : List Char} {e₁ e₂ : Formula} (h₁ : Sentence s e₁)
    (h₂ : Sentence s e₂) : e₁ = e₂ := by
  have hne := outcome_ne_tooDeep (L := s.length) .conditional 0 s (by omega)
  obtain ⟨r₁, -, hr₁⟩ := h₁.reads s.length
  obtain ⟨r₂, -, hr₂⟩ := h₂.reads s.length
  have h := (hr₁.resolve_right hne).symm.trans (hr₂.resolve_right hne)
  exact (Outcome.ok.inj h).1

/-- As long as the nesting limit is at least the length of the text, the reader accepts exactly
the sentences of the grammar, returning their derivation tree, which is unique; it rejects every
other text with a syntax error. -/
theorem read_iff_sentence (limits : Limits) (text : String) (h : text.length ≤ limits.maxDepth) :
    (∀ e, read limits text = .ok e ↔ Sentence text.toList e) ∧
      ∀ err, read limits text = .error err → ∃ line column detail,
        err = .malformed line column detail := by
  have hL : text.toList.length ≤ limits.maxDepth := by rwa [String.length_toList]
  have hne := outcome_ne_tooDeep (L := limits.maxDepth) .conditional 0 text.toList (by omega)
  refine ⟨fun e => ⟨read_sentence, fun hs => ?_⟩,
    fun err herr => (read_error herr).resolve_left hne⟩
  obtain ⟨r, hb, hr⟩ := hs.reads limits.maxDepth
  exact read_eq_ok.2 ⟨r, hr.resolve_right hne, hb⟩

theorem read_iff_sentence_n_ne_one :
    (∀ e, read {} "n != 1" = .ok e ↔ Sentence "n != 1".toList e) ∧
      ∀ err, read {} "n != 1" = .error err → ∃ line column detail,
        err = .malformed line column detail :=
  read_iff_sentence {} "n != 1" (by decide)

end Sentences

end Formula

end PluralForms
