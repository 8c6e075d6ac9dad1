import Mathlib
import PluralForms.Formula.Read

/-!
# The grammar of formulas

The formula language as a context-free grammar, in the form its documentation gives it:

    E ::= O | O "?" E ":" E
    O ::= O "||" A | A                  A ::= A "&&" Q | Q
    Q ::= Q ("==" | "!=") R | R         R ::= R ("<" | "<=" | ">" | ">=") S | S
    S ::= S ("+" | "-") M | M           M ::= M ("*" | "/" | "%") U | U
    U ::= "!" U | P                     P ::= "n" | DIGITS | "(" E ")"

where DIGITS is a run of decimal digits whose value fits a signed 64-bit word. The six binary
levels are one rule with the tier as its parameter. Blanks (space, tab, line feed, form feed,
carriage return) may stand before every token and at the end of a sentence, which allows the
same texts as blanks before and after every token.

`Derives X w e` says that the text `w` is a phrase of the symbol `X` and that `e` is its
derivation tree: parentheses and blanks leave no trace, a binary rule is left-recursive, so its
operators group to the left, and the conditional rule is right-recursive. Nothing here refers to
the reader: the tokens of each tier are listed anew and the blanks are named one by one.
-/

namespace PluralForms

namespace Formula

/-- The symbols of the grammar: a whole formula, the six binary tiers, a unary formula and a
primary one. -/
inductive Symbol where
  | formula
  | tier (t : Tier)
  | unary
  | primary
  deriving DecidableEq

/-- The symbol of the operands of a tier: the next tighter tier, or a unary formula. -/
def Tier.operandSymbol : Tier → Symbol
  | .disjunction => .tier .conjunction
  | .conjunction => .tier .equality
  | .equality => .tier .relational
  | .relational => .tier .additive
  | .additive => .tier .multiplicative
  | .multiplicative => .unary

/-- The operator tokens of each tier, with the operator each one stands for. -/
def Tier.tokens : Tier → List (List Char × BinOp)
  | .disjunction => [(['|', '|'], .or)]
  | .conjunction => [(['&', '&'], .and)]
  | .equality => [(['=', '='], .eq), (['!', '='], .ne)]
  | .relational => [(['<'], .lt), (['<', '='], .le), (['>'], .gt), (['>', '='], .ge)]
  | .additive => [(['+'], .add), (['-'], .sub)]
  | .multiplicative => [(['*'], .mul), (['/'], .div), (['%'], .rem)]

/-- The blanks a formula may hold: space, tab, line feed, form feed and carriage return. -/
def IsBlank (c : Char) : Prop :=
  c = ' ' ∨ c = '\t' ∨ c = '\n' ∨ c = '\x0C' ∨ c = '\r'

instance : DecidablePred IsBlank := fun c =>
  inferInstanceAs (Decidable (c = ' ' ∨ c = '\t' ∨ c = '\n' ∨ c = '\x0C' ∨ c = '\r'))

/-- A text made of blanks only. -/
def Blanks (b : List Char) : Prop :=
  ∀ c ∈ b, IsBlank c

/-- `w` is the token `tok` with blanks before it. -/
def IsToken (tok w : List Char) : Prop :=
  ∃ b, Blanks b ∧ w = b ++ tok

/-- The phrases of each symbol, with their derivation trees. -/
inductive Derives : Symbol → List Char → Formula → Prop
  | conditional {w₁ w₂ w₃ w₄ w₅ : List Char} {c y n : Formula} :
      Derives (.tier .disjunction) w₁ c → IsToken ['?'] w₂ → Derives .formula w₃ y →
      IsToken [':'] w₄ → Derives .formula w₅ n →
      Derives .formula (w₁ ++ w₂ ++ w₃ ++ w₄ ++ w₅) (.ternary c y n)
  | disjunction {w : List Char} {e : Formula} :
      Derives (.tier .disjunction) w e → Derives .formula w e
  | link {t : Tier} {w₁ w₂ w₃ tok : List Char} {op : BinOp} {l r : Formula} :
      Derives (.tier t) w₁ l → (tok, op) ∈ t.tokens → IsToken tok w₂ →
      Derives t.operandSymbol w₃ r → Derives (.tier t) (w₁ ++ w₂ ++ w₃) (.binary op l r)
  | operand {t : Tier} {w : List Char} {e : Formula} :
      Derives t.operandSymbol w e → Derives (.tier t) w e
  | not {w₁ w₂ : List Char} {e : Formula} :
      IsToken ['!'] w₁ → Derives .unary w₂ e → Derives .unary (w₁ ++ w₂) (.not e)
  | primary {w : List Char} {e : Formula} : Derives .primary w e → Derives .unary w e
  | var {w : List Char} : IsToken ['n'] w → Derives .primary w .var
  | num {w ds : List Char} :
      IsToken ds w → ds ≠ [] → (∀ c ∈ ds, c.isDigit) →
      Nat.ofDigitChars 10 ds 0 ≤ 2 ^ 63 - 1 →
      Derives .primary w (.num (Int64.ofNat (Nat.ofDigitChars 10 ds 0)))
  | paren {w₁ w₂ w₃ : List Char} {e : Formula} :
      IsToken ['('] w₁ → Derives .formula w₂ e → IsToken [')'] w₃ →
      Derives .primary (w₁ ++ w₂ ++ w₃) e

/-- A sentence of the grammar: a formula, then blanks to the end of the text. -/
def Sentence (s : List Char) (e : Formula) : Prop :=
  ∃ w b, s = w ++ b ∧ Blanks b ∧ Derives .formula w e

/-- The literals of a formula, from left to right. -/
def literals : Formula → List Int64
  | .num v => [v]
  | .var => []
  | .not e => e.literals
  | .binary _ l r => l.literals ++ r.literals
  | .ternary c t f => c.literals ++ t.literals ++ f.literals

theorem IsToken.blanks_append {tok w b : List Char} (hw : IsToken tok w) (hb : Blanks b) :
    IsToken tok (b ++ w) := by
  obtain ⟨b', hb', rfl⟩ := hw
  refine ⟨b ++ b', ?_, by rw [List.append_assoc]⟩
  intro c hc
  rcases List.mem_append.1 hc with h | h
  · exact hb c h
  · exact hb' c h

namespace Derives

theorem blanks_append {X : Symbol} {w b : List Char} {e : Formula} (h : Derives X w e)
    (hb : Blanks b) : Derives X (b ++ w) e := by
  induction h with
  | conditional _ h₂ _ h₄ _ ih₁ _ _ =>
    rw [← List.append_assoc, ← List.append_assoc, ← List.append_assoc, ← List.append_assoc]
    exact .conditional ih₁ h₂ ‹_› h₄ ‹_›
  | disjunction _ ih => exact .disjunction ih
  | link _ hop htok h₃ ih =>
    rw [← List.append_assoc, ← List.append_assoc]
    exact .link ih hop htok h₃
  | operand _ ih => exact .operand ih
  | not h₁ h₂ _ =>
    rw [← List.append_assoc]
    exact .not (h₁.blanks_append hb) h₂
  | primary _ ih => exact .primary ih
  | var h => exact .var (h.blanks_append hb)
  | num h hne hds hval => exact .num (h.blanks_append hb) hne hds hval
  | paren h₁ h₂ h₃ =>
    rw [← List.append_assoc, ← List.append_assoc]
    exact .paren (h₁.blanks_append hb) h₂ h₃

theorem literals_nonneg {X : Symbol} {w : List Char} {e : Formula} (h : Derives X w e) :
    ∀ v ∈ e.literals, 0 ≤ v.toInt := by
  induction h with
  | conditional _ _ _ _ _ ih₁ ih₃ ih₅ =>
    intro v hv
    simp only [literals, List.mem_append] at hv
    rcases hv with (hv | hv) | hv
    · exact ih₁ v hv
    · exact ih₃ v hv
    · exact ih₅ v hv
  | disjunction _ ih => exact ih
  | link _ _ _ _ ih₁ ih₃ =>
    intro v hv
    rcases List.mem_append.1 hv with hv | hv
    · exact ih₁ v hv
    · exact ih₃ v hv
  | operand _ ih => exact ih
  | not _ _ ih => exact ih
  | primary _ ih => exact ih
  | var => simp [literals]
  | num _ _ _ hval =>
    intro v hv
    simp only [literals, List.mem_singleton] at hv
    subst hv
    rw [Int64.toInt_ofNat_of_lt (by omega)]
    omega
  | paren _ _ _ ih => exact ih

end Derives

end Formula

end PluralForms
