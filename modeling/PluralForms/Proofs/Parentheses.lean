import Mathlib
import PluralForms.Proofs.Printing

/-!
# The printer writes only the parentheses a formula needs

Every text that reads as a formula holds at least as many `(` as the text `render` writes for
it (`read_count_open`). So no parenthesis of a printed text can go: taking out a `(` together
with a `)` after it, in particular any matching pair, leaves a text that either fails to read or
reads as another formula, under any nesting limit (`render_parens_needed`).

The count is made on derivations. A symbol of the grammar derives without parentheses exactly
the trees that bind at least as tightly as it does (`Symbol.prec`); a tree that binds more
loosely can only stand for it inside a `(` of its own. The printer wraps an operand in exactly
these cases, so the `(` it writes are forced, one by one, in every derivation of the tree.
-/

namespace PluralForms

namespace Formula

open Text

@[simp] theorem prec_num (v : Int64) : (num v).prec = 9 := rfl
@[simp] theorem prec_var : var.prec = 9 := rfl
@[simp] theorem prec_not (e : Formula) : (not e).prec = 8 := rfl
@[simp] theorem prec_binary (op : BinOp) (l r : Formula) : (binary op l r).prec = op.prec := rfl
@[simp] theorem prec_ternary (c t f : Formula) : (ternary c t f).prec = 1 := rfl

/-- The loosest binding strength a symbol derives without parentheses: any formula for a whole
formula, the operators of a tier and tighter ones for the tier, `!` and the leaves for a unary
formula, and the leaves alone for a primary one. -/
def Symbol.prec : Symbol → Nat
  | .formula => 1
  | .tier t => t.prec
  | .unary => 8
  | .primary => 9

theorem Tier.operandSymbol_prec (t : Tier) : t.operandSymbol.prec = t.prec + 1 := by
  cases t <;> rfl

theorem Tier.prec_of_mem_tokens {t : Tier} {tok : List Char} {op : BinOp}
    (h : (tok, op) ∈ t.tokens) : op.prec = t.prec := by
  cases t <;> cases op <;> simp_all [Tier.tokens, Tier.prec, Tier.level, BinOp.prec]

section Counting

theorem Tier.count_open_of_mem_tokens {t : Tier} {tok : List Char} {op : BinOp}
    (h : (tok, op) ∈ t.tokens) : tok.count '(' = 0 := by
  cases t <;> cases op <;> simp_all [Tier.tokens]

theorem Blanks.count_open {b : List Char} (hb : Blanks b) : b.count '(' = 0 :=
  List.count_eq_zero.2 fun h => by rcases hb '(' h with h | h | h | h | h <;> cases h

theorem IsToken.count_open {tok w : List Char} (h : IsToken tok w) :
    w.count '(' = tok.count '(' := by
  obtain ⟨b, hb, rfl⟩ := h
  rw [List.count_append, hb.count_open, Nat.zero_add]

theorem count_open_parenIf (w : Bool) (s : String) :
    (parenIf w s).toList.count '(' = s.toList.count '(' + if w then 1 else 0 := by
  cases w <;> simp [toList_parenIf]

theorem count_open_symbol (op : BinOp) : op.symbol.toList.count '(' = 0 := by
  cases op <;> rfl

theorem count_open_render_num {v : Int64} (h : 0 ≤ v.toInt) :
    (render (.num v)).toList.count '(' = 0 := by
  rw [render_num_toList h, List.count_eq_zero]
  intro hmem
  have := Nat.isDigit_of_mem_toDigits (by decide) (by decide) hmem
  exact absurd this (by decide)

theorem count_open_render_not (e : Formula) :
    (render (.not e)).toList.count '(' =
      e.render.toList.count '(' + if e.prec < 8 then 1 else 0 := by
  rw [render_not_toList, List.count_cons, count_open_parenIf]
  simp

theorem count_open_render_binary (op : BinOp) (l r : Formula) :
    (render (.binary op l r)).toList.count '(' =
      (l.render.toList.count '(' + if l.prec < op.prec then 1 else 0) +
        (r.render.toList.count '(' + if r.prec ≤ op.prec then 1 else 0) := by
  rw [render_binary_toList]
  simp only [List.count_append, List.count_cons, count_open_parenIf, count_open_symbol]
  simp

theorem count_open_render_ternary (c t f : Formula) :
    (render (.ternary c t f)).toList.count '(' =
      (c.render.toList.count '(' + if c.prec ≤ 1 then 1 else 0) + t.render.toList.count '(' +
        f.render.toList.count '(' := by
  rw [render_ternary_toList]
  simp only [List.count_append, List.count_cons, count_open_parenIf]
  simp
  omega

end Counting

/-- A phrase holds at least the `(` of the printed text of its tree, and one more when the tree
binds more loosely than its symbol allows without parentheses (`X.prec - e.prec` is then
positive). By induction on the derivation: each rule either adds the parenthesis the printer
adds for an operand, or lets a tighter symbol stand for a looser one. -/
theorem Derives.count_open {X : Symbol} {w : List Char} {e : Formula} (h : Derives X w e) :
    e.render.toList.count '(' + min 1 (X.prec - e.prec) ≤ w.count '(' := by
  induction h with
  | conditional _ h₂ _ h₄ _ ih₁ ih₃ ih₅ =>
    rw [count_open_render_ternary]
    simp only [List.count_append, h₂.count_open, h₄.count_open, prec_ternary, Symbol.prec,
      Tier.prec, Tier.level] at ih₁ ih₃ ih₅ ⊢
    split_ifs <;> omega
  | disjunction _ ih =>
    simp only [Symbol.prec, Tier.prec, Tier.level] at ih ⊢
    omega
  | link _ hop htok _ ih₁ ih₃ =>
    rw [count_open_render_binary]
    rw [Tier.operandSymbol_prec] at ih₃
    simp only [List.count_append, htok.count_open, Tier.count_open_of_mem_tokens hop,
      prec_binary, Symbol.prec, Tier.prec_of_mem_tokens hop] at ih₁ ih₃ ⊢
    split_ifs <;> omega
  | operand _ ih =>
    rw [Tier.operandSymbol_prec] at ih
    simp only [Symbol.prec] at ih ⊢
    omega
  | not h₁ _ ih =>
    rw [count_open_render_not]
    simp only [List.count_append, h₁.count_open, prec_not, Symbol.prec] at ih ⊢
    split_ifs <;> omega
  | primary _ ih =>
    simp only [Symbol.prec] at ih ⊢
    omega
  | var => simp [render, Symbol.prec]
  | num _ _ _ hval =>
    rw [count_open_render_num (by rw [Int64.toInt_ofNat_of_lt (by omega)]; omega)]
    simp [Symbol.prec]
  | paren h₁ _ h₃ ih =>
    simp only [List.count_append, h₁.count_open, h₃.count_open, Symbol.prec,
      List.count_singleton_self] at ih ⊢
    omega

theorem Sentence.count_open {s : List Char} {e : Formula} (h : Sentence s e) :
    e.render.toList.count '(' ≤ s.count '(' := by
  obtain ⟨w, b, rfl, hb, hw⟩ := h
  have := hw.count_open
  rw [List.count_append, hb.count_open]
  omega

theorem read_count_open {limits : Limits} {text : String} {e : Formula}
    (h : read limits text = .ok e) : e.render.toList.count '(' ≤ text.toList.count '(' :=
  (read_sentence h).count_open

/-- Printing keeps no parenthesis that reading could do without: taking any `(` out of the
printed text of a formula together with any `)` after it, in particular any matching pair,
gives a text that does not read as the formula, whatever the nesting limit. -/
theorem render_parens_needed (limits : Limits) (e : Formula) {a b c : List Char}
    (h : e.render.toList = a ++ '(' :: b ++ ')' :: c) :
    read limits (String.ofList (a ++ b ++ c)) ≠ .ok e := by
  intro hread
  have hle := read_count_open hread
  rw [String.toList_ofList, h] at hle
  simp only [List.count_append, List.count_cons_self,
    List.count_cons_of_ne (by decide : ')' ≠ '(')] at hle
  omega

/-- Without its parentheses, `(n + 1) * n` reads as `n + 1 * n`, another formula. -/
theorem render_parens_needed_product :
    (binary .mul (binary .add var (num 1)) var).render.toList =
        [] ++ '(' :: "n + 1".toList ++ ')' :: " * n".toList ∧
      read {} (String.ofList ([] ++ "n + 1".toList ++ " * n".toList)) ≠
        .ok (binary .mul (binary .add var (num 1)) var) :=
  ⟨by decide, render_parens_needed {} _ (by decide)⟩

end Formula

end PluralForms
