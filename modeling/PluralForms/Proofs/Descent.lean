import Mathlib
import PluralForms.Formula.Descent
import PluralForms.Proofs.Printing

/-!
# The nesting record of a reading

Reading as a recursive descent with a nesting record (`Descent.Routine.run`) changes the record
in two ways only, and this module proves both of them for every routine and every input:

* every routine that stands for a level of the grammar gives back the levels it takes, whether
  it ends with a value, a backtrack or a cut (`Routine.run_keepsDepth`); the links of a chain
  are the one routine that does not, and their chain gives the levels back for them;
* the flag of the record is set exactly when a routine ends with a cut (`Routine.run_flagsCut`),
  so no combinator around a cut recovers from it.

Both are proved of the combinators first, as properties that running one parser after another,
an option, an alternative or a nested parser keep, and then of the routines by induction on the
fuel. The depth itself never passes the limit: that is part of the type of records.
-/

namespace PluralForms

namespace Descent

open Text Formula Parse

variable {L : Nat} {α β : Type}

namespace Parse

/-! ### Running the combinators -/

theorem bind_apply (p : Parse L α) (k : α → Parse L β) (i : Input L) :
    (p >>= k) i = p.bind k i := rfl

theorem pure_apply (a : α) (i : Input L) : (pure a : Parse L α) i = some (.ok a, i) := rfl

theorem map_eq (f : α → β) (p : Parse L α) : f <$> p = p >>= fun a => pure (f a) := rfl

theorem bind_of_ok {p : Parse L α} {k : α → Parse L β} {i o : Input L} {a : α}
    (h : p i = some (.ok a, o)) : (p >>= k) i = k a o := by
  rw [bind_apply, Parse.bind, h]

theorem bind_of_backtrack {p : Parse L α} {k : α → Parse L β} {i o : Input L}
    (h : p i = some (.backtrack, o)) : (p >>= k) i = some (.backtrack, o) := by
  rw [bind_apply, Parse.bind, h]

theorem bind_of_cut {p : Parse L α} {k : α → Parse L β} {i o : Input L}
    (h : p i = some (.cut, o)) : (p >>= k) i = some (.cut, o) := by
  rw [bind_apply, Parse.bind, h]

theorem token_of_some {f : List Char → Option (α × List Char)} {i : Input L} {a : α}
    {r : List Char} (h : f i.text = some (a, r)) :
    token f i = some (.ok a, { i with text := r }) := by
  rw [token, h]

theorem token_of_none {f : List Char → Option (α × List Char)} {i : Input L}
    (h : f i.text = none) : token f i = some (.backtrack, i) := by
  rw [token, h]

/-! ### What a finished run of a combinator was made of -/

section Inversions

variable {i o : Input L}

/-- A finished run of `p >>= k` is a value of `p` continued by `k`, or a backtrack or cut of
`p` passed on. -/
theorem bind_eq_some {p : Parse L α} {k : α → Parse L β} {b : Answer β}
    (h : (p >>= k) i = some (b, o)) :
    (∃ a o₁, p i = some (.ok a, o₁) ∧ k a o₁ = some (b, o)) ∨
      (p i = some (.backtrack, o) ∧ b = .backtrack) ∨ (p i = some (.cut, o) ∧ b = .cut) := by
  rw [bind_apply] at h
  unfold Parse.bind at h
  rcases hp : p i with _ | ⟨a | _ | _, o₁⟩ <;> rw [hp] at h
  · cases h
  · exact .inl ⟨a, o₁, rfl, h⟩
  · cases h
    exact .inr (.inl ⟨rfl, rfl⟩)
  · cases h
    exact .inr (.inr ⟨rfl, rfl⟩)

/-- A finished run of `opt p` is a finished run of `p`, gone back to where it began if `p`
backtracked. -/
theorem opt_eq_some {p : Parse L α} {b : Answer (Option α)} (h : Parse.opt p i = some (b, o)) :
    (∃ a, p i = some (.ok a, o) ∧ b = .ok (some a)) ∨
      (∃ o₁, p i = some (.backtrack, o₁) ∧ o = { o₁ with text := i.text } ∧ b = .ok none) ∨
      (p i = some (.cut, o) ∧ b = .cut) := by
  unfold Parse.opt at h
  rcases hp : p i with _ | ⟨a | _ | _, o₁⟩ <;> rw [hp] at h
  · cases h
  · cases h
    exact .inl ⟨a, rfl, rfl⟩
  · cases h
    exact .inr (.inl ⟨o₁, rfl, rfl, rfl⟩)
  · cases h
    exact .inr (.inr ⟨rfl, rfl⟩)

/-- A finished run of `orElse p q` is one of `p` that did not backtrack, or one of `q` from where
`p` began after `p` backtracked. -/
theorem orElse_eq_some {p q : Parse L α} {b : Answer α} (h : Parse.orElse p q i = some (b, o)) :
    (p i = some (b, o) ∧ b ≠ .backtrack) ∨
      ∃ o₁, p i = some (.backtrack, o₁) ∧ q { o₁ with text := i.text } = some (b, o) := by
  unfold Parse.orElse at h
  rcases hp : p i with _ | ⟨a | _ | _, o₁⟩ <;> rw [hp] at h
  · cases h
  · cases h
    exact .inl ⟨rfl, nofun⟩
  · exact .inr ⟨o₁, rfl, h⟩
  · cases h
    exact .inl ⟨rfl, nofun⟩

theorem restoring_eq_some {p : Parse L α} {b : Answer α} (h : Parse.restoring p i = some (b, o)) :
    ∃ o₁, p i = some (b, o₁) ∧
      o = { o₁ with nesting := ⟨i.nesting.depth, o₁.nesting.exceeded, i.nesting.depth_le⟩ } := by
  unfold Parse.restoring at h
  obtain ⟨⟨b₁, o₁⟩, h₁, h⟩ := Option.map_eq_some_iff.1 h
  cases h
  exact ⟨o₁, h₁, rfl⟩

end Inversions

/-! ### The flag and the depth -/

/-- The parser leaves the flag as it found it, unless it cuts, and then the flag is set. -/
def FlagsCut (p : Parse L α) : Prop :=
  ∀ i a o, p i = some (a, o) → o.nesting.exceeded = (i.nesting.exceeded || a.isCut)

/-- The parser gives back every level it takes. -/
def KeepsDepth (p : Parse L α) : Prop :=
  ∀ i a o, p i = some (a, o) → o.nesting.depth = i.nesting.depth

theorem flagsCut_pure (a : α) : FlagsCut (pure a : Parse L α) := by
  intro i a' o h
  cases h
  simp [Answer.isCut]

theorem keepsDepth_pure (a : α) : KeepsDepth (pure a : Parse L α) := by
  intro i a' o h
  cases h
  rfl

theorem flagsCut_token (f : List Char → Option (α × List Char)) :
    FlagsCut (token f : Parse L α) := by
  intro i a o h
  unfold token at h
  split at h <;> cases h <;> simp [Answer.isCut]

theorem keepsDepth_token (f : List Char → Option (α × List Char)) :
    KeepsDepth (token f : Parse L α) := by
  intro i a o h
  unfold token at h
  split at h <;> cases h <;> rfl

theorem FlagsCut.bind {p : Parse L α} {k : α → Parse L β} (hp : FlagsCut p)
    (hk : ∀ a, FlagsCut (k a)) : FlagsCut (p >>= k) := by
  intro i b o h
  rcases bind_eq_some h with ⟨a, o₁, h₁, h₂⟩ | ⟨h₁, rfl⟩ | ⟨h₁, rfl⟩
  · rw [hk a o₁ b o h₂, hp i _ o₁ h₁]
    simp [Answer.isCut]
  · exact hp i _ o h₁
  · exact hp i _ o h₁

theorem KeepsDepth.bind {p : Parse L α} {k : α → Parse L β} (hp : KeepsDepth p)
    (hk : ∀ a, KeepsDepth (k a)) : KeepsDepth (p >>= k) := by
  intro i b o h
  rcases bind_eq_some h with ⟨a, o₁, h₁, h₂⟩ | ⟨h₁, -⟩ | ⟨h₁, -⟩
  · rw [hk a o₁ b o h₂, hp i _ o₁ h₁]
  · exact hp i _ o h₁
  · exact hp i _ o h₁

theorem FlagsCut.opt {p : Parse L α} (hp : FlagsCut p) : FlagsCut (Parse.opt p) := by
  intro i b o h
  rcases opt_eq_some h with ⟨a, h₁, rfl⟩ | ⟨o₁, h₁, rfl, rfl⟩ | ⟨h₁, rfl⟩
  · exact hp i _ o h₁
  · exact hp i _ o₁ h₁
  · exact hp i _ o h₁

theorem KeepsDepth.opt {p : Parse L α} (hp : KeepsDepth p) : KeepsDepth (Parse.opt p) := by
  intro i b o h
  rcases opt_eq_some h with ⟨a, h₁, -⟩ | ⟨o₁, h₁, rfl, -⟩ | ⟨h₁, -⟩
  · exact hp i _ o h₁
  · exact hp i _ o₁ h₁
  · exact hp i _ o h₁

theorem FlagsCut.orElse {p q : Parse L α} (hp : FlagsCut p) (hq : FlagsCut q) :
    FlagsCut (Parse.orElse p q) := by
  intro i b o h
  rcases orElse_eq_some h with ⟨h₁, -⟩ | ⟨o₁, h₁, h₂⟩
  · exact hp i b o h₁
  · have h₃ : o₁.nesting.exceeded = i.nesting.exceeded := by
      simpa [Answer.isCut] using hp i _ o₁ h₁
    rw [hq _ b o h₂]
    exact congrArg (· || b.isCut) h₃

theorem KeepsDepth.orElse {p q : Parse L α} (hp : KeepsDepth p) (hq : KeepsDepth q) :
    KeepsDepth (Parse.orElse p q) := by
  intro i b o h
  rcases orElse_eq_some h with ⟨h₁, -⟩ | ⟨o₁, h₁, h₂⟩
  · exact hp i b o h₁
  · rw [hq _ b o h₂]
    exact hp i _ o₁ h₁

theorem flagsCut_descend : FlagsCut (descend : Parse L Unit) := by
  intro i a o h
  unfold descend at h
  split at h <;> cases h <;> simp [Answer.isCut, Nesting.deeper]

theorem FlagsCut.restoring {p : Parse L α} (hp : FlagsCut p) : FlagsCut (Parse.restoring p) := by
  intro i a o h
  obtain ⟨o₁, h₁, rfl⟩ := restoring_eq_some h
  exact hp i a o₁ h₁

theorem keepsDepth_restoring (p : Parse L α) : KeepsDepth (Parse.restoring p) := by
  intro i a o h
  obtain ⟨o₁, -, rfl⟩ := restoring_eq_some h
  rfl

theorem FlagsCut.nested {p : Parse L α} (hp : FlagsCut p) : FlagsCut (Parse.nested p) :=
  (flagsCut_descend.bind fun _ => hp).restoring

theorem keepsDepth_nested (p : Parse L α) : KeepsDepth (Parse.nested p) :=
  keepsDepth_restoring _

end Parse

/-! ### The routines -/

/-- Whether the routine stands for a level of the grammar: all do but the links of a chain,
which leave the levels they take to their chain. -/
def Routine.isLevel : Routine → Bool
  | .links _ _ => false
  | _ => true

theorem Routine.isLevel_ofGoal_operand (t : Tier) : (Routine.ofGoal t.operand).isLevel := by
  cases t <;> rfl

theorem Routine.run_flagsCut (fuel : Nat) (p : Routine) :
    FlagsCut (p.run fuel : Parse L Formula) := by
  induction fuel generalizing p with
  | zero =>
    intro i a o h
    cases h
  | succ fuel ih =>
    cases p with
    | conditional =>
      refine (ih _).bind fun test => (flagsCut_token _).bind (fun _ => flagsCut_token _) |>.opt
        |>.bind fun x => ?_
      cases x with
      | none => exact flagsCut_pure _
      | some =>
        exact (ih _).nested.bind fun _ => ((flagsCut_token _).bind fun _ => flagsCut_token _).bind
          fun _ => (ih _).nested.bind fun _ => flagsCut_pure _
    | chain t => exact ((ih _).bind fun _ => ih _).restoring
    | links t lhs =>
      refine ((flagsCut_token _).bind fun _ => flagsCut_token _).opt.bind fun x => ?_
      cases x with
      | none => exact flagsCut_pure _
      | some op => exact flagsCut_descend.bind fun _ => (ih _).bind fun _ => ih _
    | unary =>
      refine (flagsCut_token _).bind fun _ => (flagsCut_token _).opt.bind fun x => ?_
      cases x with
      | none => exact ih _
      | some => exact (ih _).nested.bind fun _ => flagsCut_pure _
    | primary =>
      exact ((flagsCut_token _).bind fun _ => flagsCut_pure _).orElse
        (((flagsCut_token _).bind fun _ => flagsCut_pure _).orElse (ih _))
    | parenthesized =>
      exact (flagsCut_token _).bind fun _ => (ih _).nested.bind fun _ =>
        ((flagsCut_token _).bind fun _ => flagsCut_token _).bind fun _ => flagsCut_pure _

theorem Routine.run_keepsDepth (fuel : Nat) (p : Routine) (hp : p.isLevel) :
    KeepsDepth (p.run fuel : Parse L Formula) := by
  induction fuel generalizing p with
  | zero =>
    intro i a o h
    cases h
  | succ fuel ih =>
    cases p with
    | conditional =>
      refine (ih _ rfl).bind fun test =>
        ((keepsDepth_token _).bind fun _ => keepsDepth_token _).opt.bind fun x => ?_
      cases x with
      | none => exact keepsDepth_pure _
      | some =>
        exact (keepsDepth_nested _).bind fun _ =>
          ((keepsDepth_token _).bind fun _ => keepsDepth_token _).bind fun _ =>
            (keepsDepth_nested _).bind fun _ => keepsDepth_pure _
    | chain t => exact keepsDepth_restoring _
    | links t lhs => cases hp
    | unary =>
      refine (keepsDepth_token _).bind fun _ => (keepsDepth_token _).opt.bind fun x => ?_
      cases x with
      | none => exact ih _ rfl
      | some => exact (keepsDepth_nested _).bind fun _ => keepsDepth_pure _
    | primary =>
      exact ((keepsDepth_token _).bind fun _ => keepsDepth_pure _).orElse
        (((keepsDepth_token _).bind fun _ => keepsDepth_pure _).orElse (ih _ rfl))
    | parenthesized =>
      exact (keepsDepth_token _).bind fun _ => (keepsDepth_nested _).bind fun _ =>
        ((keepsDepth_token _).bind fun _ => keepsDepth_token _).bind fun _ => keepsDepth_pure _

/-! ### Runs that tell the outcomes of `step` -/

namespace Parse

section Tokens

variable {i o : Input L} {a : α} {r : List Char}

theorem ws_apply (i : Input L) : ws i = some (.ok (), { i with text := skipBlanks i.text }) := rfl

theorem charAt_self (c : Char) (r : List Char) : charAt c (c :: r) = some ((), r) := by
  simp [charAt]

theorem charAt_eq_none {c : Char} {s : List Char} (h : ∀ r, s ≠ c :: r) : charAt c s = none := by
  unfold charAt
  split
  next c' r =>
    rw [if_neg]
    rintro rfl
    exact h r rfl
  next => rfl

theorem preceded_ws_token_of_some {f : List Char → Option (α × List Char)}
    (h : f (skipBlanks i.text) = some (a, r)) :
    preceded ws (token f) i = some (.ok a, { i with text := r }) := by
  rw [preceded, bind_of_ok (ws_apply i), token_of_some h]

theorem preceded_ws_token_of_none {f : List Char → Option (α × List Char)}
    (h : f (skipBlanks i.text) = none) :
    preceded ws (token f) i = some (.backtrack, { i with text := skipBlanks i.text }) := by
  rw [preceded, bind_of_ok (ws_apply i), token_of_none h]

theorem char_of_eq {c : Char} (h : i.text = c :: r) :
    char c i = some (.ok (), { i with text := r }) :=
  token_of_some (by rw [h]; exact charAt_self c r)

theorem char_of_ne {c : Char} (h : ∀ r, i.text ≠ c :: r) : char c i = some (.backtrack, i) :=
  token_of_none (charAt_eq_none h)

theorem preceded_ws_char_of_eq {c : Char} (h : skipBlanks i.text = c :: r) :
    preceded ws (char c) i = some (.ok (), { i with text := r }) :=
  preceded_ws_token_of_some (by rw [h]; exact charAt_self c r)

theorem preceded_ws_char_of_ne {c : Char} (h : ∀ r, skipBlanks i.text ≠ c :: r) :
    preceded ws (char c) i = some (.backtrack, { i with text := skipBlanks i.text }) :=
  preceded_ws_token_of_none (charAt_eq_none h)

theorem preceded_ws_operator_of_some {t : Tier} {op : BinOp}
    (h : t.operator (skipBlanks i.text) = some (op, r)) :
    preceded ws (operator t) i = some (.ok op, { i with text := r }) :=
  preceded_ws_token_of_some h

theorem preceded_ws_operator_of_none {t : Tier} (h : t.operator (skipBlanks i.text) = none) :
    preceded ws (operator t) i = some (.backtrack, { i with text := skipBlanks i.text }) :=
  preceded_ws_token_of_none h

theorem literal_of_some {v : Int64} (h : readLiteral? i.text = some (v, r)) :
    literal i = some (.ok v, { i with text := r }) :=
  token_of_some h

theorem literal_of_none (h : readLiteral? i.text = none) : literal i = some (.backtrack, i) :=
  token_of_none h

theorem preceded_of_ok {first : Parse L Unit} {p : Parse L α} (h : first i = some (.ok (), o)) :
    preceded first p i = p o :=
  bind_of_ok h

theorem preceded_of_backtrack {first : Parse L Unit} {p : Parse L α}
    (h : first i = some (.backtrack, o)) : preceded first p i = some (.backtrack, o) :=
  bind_of_backtrack h

theorem map_of_ok {f : α → β} {p : Parse L α} (h : p i = some (.ok a, o)) :
    (f <$> p) i = some (.ok (f a), o) := by
  rw [map_eq, bind_of_ok h, pure_apply]

theorem map_of_backtrack {f : α → β} {p : Parse L α} (h : p i = some (.backtrack, o)) :
    (f <$> p) i = some (.backtrack, o) := by
  rw [map_eq, bind_of_backtrack h]

theorem opt_of_ok {p : Parse L α} (h : p i = some (.ok a, o)) :
    Parse.opt p i = some (.ok (some a), o) := by
  rw [Parse.opt, h]

theorem opt_of_backtrack {p : Parse L α} (h : p i = some (.backtrack, o)) :
    Parse.opt p i = some (.ok none, { o with text := i.text }) := by
  rw [Parse.opt, h]

theorem orElse_of_ok {p q : Parse L α} (h : p i = some (.ok a, o)) :
    Parse.orElse p q i = some (.ok a, o) := by
  rw [Parse.orElse, h]

theorem orElse_of_backtrack {p q : Parse L α} (h : p i = some (.backtrack, o)) :
    Parse.orElse p q i = q { o with text := i.text } := by
  rw [Parse.orElse, h]

theorem orElse_of_backtrack_self {p q : Parse L α} (h : p i = some (.backtrack, i)) :
    Parse.orElse p q i = q i := by
  rw [Parse.orElse, h]

theorem descend_of_lt (h : i.nesting.depth < L) :
    descend i = some (.ok (), { i with nesting := i.nesting.deeper h }) := by
  rw [descend, dif_pos h]

theorem descend_of_not_lt (h : ¬ i.nesting.depth < L) :
    descend i = some (.cut, { i with nesting := { i.nesting with exceeded := true } }) := by
  rw [descend, dif_neg h]

end Tokens

end Parse

/-- A run tells the outcome `x` of `step` when it ends as `x` does: with the same tree and the
text after it, with a backtrack where the reading stopped, or with a cut where it reached the
limit. -/
def Tells : Outcome → Answer Formula × Input L → Prop
  | .ok e r, res => res.1 = .ok e ∧ res.2.text = r
  | .fail r, res => res.1 = .backtrack ∧ res.2.text = r
  | .tooDeep, res => res.1 = .cut

/-- A run that started with the record `n` tells `x` and leaves the record as it was, unless it
cuts. -/
def Told (n : Nesting L) : Outcome → Answer Formula × Input L → Prop
  | .ok e r, res => res = (.ok e, ⟨r, n⟩)
  | .fail r, res => res = (.backtrack, ⟨r, n⟩)
  | .tooDeep, res => res.1 = .cut

section Telling

variable {i : Input L} {n : Nesting L} {x : Outcome} {res : Answer Formula × Input L}

theorem Tells.cut_iff (h : Tells x res) : res.1 = .cut ↔ x = .tooDeep := by
  cases x with
  | ok e r =>
    have ha : res.1 = .ok e := h.1
    simp [ha]
  | fail r =>
    have ha : res.1 = .backtrack := h.1
    simp [ha]
  | tooDeep =>
    have ha : res.1 = .cut := h
    simp [ha]

theorem Told.tells (h : Told n x res) : Tells x res := by
  cases x with
  | ok e r =>
    cases h
    exact ⟨rfl, rfl⟩
  | fail r =>
    cases h
    exact ⟨rfl, rfl⟩
  | tooDeep => exact h

/-- A parser that keeps the depth and sets the flag only at a cut leaves the record as it was
whenever it does not cut. -/
theorem told_of_tells {p : Parse L Formula} (hf : FlagsCut p) (hd : KeepsDepth p)
    (h : p i = some res) (ht : Tells x res) : Told i.nesting x res := by
  obtain ⟨a, o⟩ := res
  have hn : a.isCut = false → o.nesting = i.nesting := fun hc =>
    Nesting.ext (hd i a o h) (by rw [hf i a o h, hc, Bool.or_false])
  cases x with
  | ok e r =>
    obtain ⟨rfl, rfl⟩ := ht
    rw [← hn rfl]
    rfl
  | fail r =>
    obtain ⟨rfl, rfl⟩ := ht
    rw [← hn rfl]
    rfl
  | tooDeep => exact ht

/-- Running a parser that tells `x` and then a continuation that tells `K e r` after each tree
`e` and rest `r` of `x` tells `x.bind K`. -/
theorem bind_tells {p : Parse L Formula} {k : Formula → Parse L Formula}
    {K : Formula → List Char → Outcome} (hp : ∃ res, p i = some res ∧ Told n x res)
    (hk : ∀ e r, x = .ok e r → ∃ res, k e ⟨r, n⟩ = some res ∧ Tells (K e r) res) :
    ∃ res, (p >>= k) i = some res ∧ Tells (x.bind K) res := by
  obtain ⟨res₁, h₁, ht⟩ := hp
  cases x with
  | ok e r =>
    cases ht
    rw [bind_of_ok h₁]
    exact hk e r rfl
  | fail r =>
    cases ht
    exact ⟨_, bind_of_backtrack h₁, rfl, rfl⟩
  | tooDeep =>
    obtain ⟨a, o⟩ := res₁
    cases ht
    exact ⟨_, bind_of_cut h₁, rfl⟩

/-- Putting the depth back after a parser that sets the flag only at a cut leaves the record as
it was. -/
theorem restoring_told {p : Parse L Formula} (hf : FlagsCut p)
    (hp : ∃ res, p i = some res ∧ Tells x res) :
    ∃ res, Parse.restoring p i = some res ∧ Told i.nesting x res := by
  obtain ⟨⟨a, o⟩, h, ht⟩ := hp
  have hr : Parse.restoring p i = some (a, ⟨o.text, ⟨i.nesting.depth, o.nesting.exceeded,
      i.nesting.depth_le⟩⟩) := by
    rw [Parse.restoring, h]
    rfl
  refine ⟨_, hr, ?_⟩
  have hn : a.isCut = false → o.nesting.exceeded = i.nesting.exceeded := fun hc => by
    rw [hf i a o h, hc, Bool.or_false]
  cases x with
  | ok e r =>
    obtain ⟨rfl, rfl⟩ := ht
    rw [hn rfl]
    rfl
  | fail r =>
    obtain ⟨rfl, rfl⟩ := ht
    rw [hn rfl]
    rfl
  | tooDeep => exact ht

theorem nested_told_of_lt {p : Parse L Formula} (hf : FlagsCut p) {y : Outcome}
    (hd : i.nesting.depth < L)
    (hp : ∃ res, p { i with nesting := i.nesting.deeper hd } = some res ∧ Tells y res) :
    ∃ res, Parse.nested p i = some res ∧ Told i.nesting y res := by
  refine restoring_told (flagsCut_descend.bind fun _ => hf) ?_
  rw [bind_of_ok (descend_of_lt hd)]
  exact hp

theorem nested_told {p : Parse L Formula} (hf : FlagsCut p) {y : Outcome}
    (hp : ∀ h : i.nesting.depth < L,
      ∃ res, p { i with nesting := i.nesting.deeper h } = some res ∧ Tells y res) :
    ∃ res, Parse.nested p i = some res ∧
      Told i.nesting (if i.nesting.depth < L then y else .tooDeep) res := by
  by_cases hd : i.nesting.depth < L
  · rw [if_pos hd]
    exact nested_told_of_lt hf hd (hp hd)
  · rw [if_neg hd]
    refine restoring_told (flagsCut_descend.bind fun _ => hf) ?_
    exact ⟨_, bind_of_cut (descend_of_not_lt hd), rfl⟩

end Telling

/-- The order in which the routines call each other on the same text. -/
def Routine.rank : Routine → Nat
  | .parenthesized => 0
  | .primary => 1
  | .unary => 2
  | .links t _ => 2 * t.level + 3
  | .chain t => 2 * t.level + 4
  | .conditional => 15

/-- What `Formula.step` reads in place of the routine, at depth `d` from the text `s`; a
parenthesized formula is a primary one that starts with `(`. -/
def Routine.outcome (L d : Nat) (s : List Char) : Routine → Outcome
  | .conditional => (step L .conditional d s).outcome
  | .chain t => (step L (.chain t) d s).outcome
  | .links t lhs => (step L (.links t lhs) d s).outcome
  | .unary => (step L .unary d s).outcome
  | .primary => (step L .primary d s).outcome
  | .parenthesized => if s.head? = some '(' then (step L .primary d s).outcome else .fail s

theorem Routine.outcome_ofGoal (g : Goal) (d : Nat) (s : List Char) :
    (Routine.ofGoal g).outcome L d s = (step L g d s).outcome := by
  cases g <;> rfl

theorem Routine.rank_lt (p : Routine) : p.rank < 16 := by
  cases p with
  | links t _ | chain t => cases t <;> simp [Routine.rank, Tier.level]
  | _ => simp [Routine.rank]

theorem Routine.rank_ofGoal_operand (t : Tier) :
    (Routine.ofGoal t.operand).rank + 2 ≤ (Routine.chain t).rank := by
  cases t <;> simp [Routine.ofGoal, Tier.operand, Routine.rank, Tier.level]

/-- With `fuel`, every routine whose text is short enough for it returns, and tells the outcome
of `step` at the depth of its record. -/
def Answers (L fuel : Nat) : Prop :=
  ∀ (p : Routine) (i : Input L), i.text.length * 16 + p.rank < fuel →
    ∃ res, p.run fuel i = some res ∧ Tells (p.outcome L i.nesting.depth i.text) res

theorem Answers.told {fuel : Nat} (h : Answers L fuel) {p : Routine} (hp : p.isLevel)
    {i : Input L} (hi : i.text.length * 16 + p.rank < fuel) :
    ∃ res, p.run fuel i = some res ∧ Told i.nesting (p.outcome L i.nesting.depth i.text) res := by
  obtain ⟨res, hr, ht⟩ := h p i hi
  exact ⟨res, hr, told_of_tells (Routine.run_flagsCut _ _) (Routine.run_keepsDepth _ _ hp) hr ht⟩

section Steps

/-! Each routine, given fuel for its calls, tells what `step` reads in its place. -/

variable {fuel : Nat} (ih : Answers L fuel) (i : Input L)
include ih

theorem answers_parenthesized (hi : i.text.length * 16 + Routine.parenthesized.rank < fuel + 1) :
    ∃ res, Routine.parenthesized.run (fuel + 1) i = some res ∧
      Tells (Routine.parenthesized.outcome L i.nesting.depth i.text) res := by
  rw [Routine.run]
  by_cases hs : ∃ r, i.text = '(' :: r
  · obtain ⟨r, hr⟩ := hs
    have hlen : r.length * 16 + Routine.conditional.rank < fuel := by
      simp only [hr, List.length_cons, Routine.rank] at hi ⊢
      omega
    rw [bind_of_ok (char_of_eq hr)]
    simp only [Routine.outcome, hr, List.head?_cons, if_true]
    rw [hr, outcome_paren, ← Outcome.ite_bind]
    refine bind_tells (nested_told (Routine.run_flagsCut _ _) fun _ => ih .conditional _ hlen) ?_
    intro e r₂ _
    split
    next r₃ hc =>
      rw [bind_of_ok (preceded_ws_char_of_eq hc)]
      exact ⟨_, rfl, rfl, rfl⟩
    next r₃ hc =>
      rw [bind_of_backtrack (preceded_ws_char_of_ne hc)]
      exact ⟨_, rfl, rfl, rfl⟩
  · have hhead : i.text.head? ≠ some '(' := fun hh => hs (List.head?_eq_some_iff.1 hh)
    rw [bind_of_backtrack (char_of_ne fun r hr => hs ⟨r, hr⟩)]
    simp only [Routine.outcome, if_neg hhead]
    exact ⟨_, rfl, rfl, rfl⟩

theorem answers_primary (hi : i.text.length * 16 + Routine.primary.rank < fuel + 1) :
    ∃ res, Routine.primary.run (fuel + 1) i = some res ∧
      Tells (Routine.primary.outcome L i.nesting.depth i.text) res := by
  rw [Routine.run]
  obtain ⟨rp, hrp, htp⟩ := ih .parenthesized i (by simp only [Routine.rank] at hi ⊢; omega)
  simp only [Routine.outcome]
  by_cases hn : ∃ r, i.text = 'n' :: r
  · obtain ⟨r, hr⟩ := hn
    rw [orElse_of_ok (preceded_of_ok (char_of_eq hr)), hr, outcome_var]
    exact ⟨_, rfl, rfl, rfl⟩
  have hvar : preceded (char 'n') (pure Formula.var) i = some (.backtrack, i) :=
    preceded_of_backtrack (char_of_ne fun r hr => hn ⟨r, hr⟩)
  rw [orElse_of_backtrack_self hvar]
  by_cases hp : ∃ r, i.text = '(' :: r
  · obtain ⟨r, hr⟩ := hp
    have hlit : readLiteral? i.text = none := by
      rw [hr]
      simp [readLiteral?]
    rw [orElse_of_backtrack_self (map_of_backtrack (literal_of_none hlit))]
    have hhead : i.text.head? = some '(' := by rw [hr]; rfl
    simp only [Routine.outcome, if_pos hhead] at htp
    exact ⟨rp, hrp, htp⟩
  rw [outcome_literal L _ (fun r hr => hn ⟨r, hr⟩) (fun r hr => hp ⟨r, hr⟩)]
  cases hl : readLiteral? i.text with
  | some x =>
    obtain ⟨v, r⟩ := x
    rw [orElse_of_ok (map_of_ok (literal_of_some hl))]
    exact ⟨_, rfl, rfl, rfl⟩
  | none =>
    rw [orElse_of_backtrack_self (map_of_backtrack (literal_of_none hl))]
    have hhead : i.text.head? ≠ some '(' := fun hh => hp (List.head?_eq_some_iff.1 hh)
    simp only [Routine.outcome, if_neg hhead] at htp
    exact ⟨rp, hrp, htp⟩

theorem answers_unary (hi : i.text.length * 16 + Routine.unary.rank < fuel + 1) :
    ∃ res, Routine.unary.run (fuel + 1) i = some res ∧
      Tells (Routine.unary.outcome L i.nesting.depth i.text) res := by
  rw [Routine.run, bind_of_ok (ws_apply i)]
  simp only [Routine.outcome]
  by_cases hb : ∃ r, skipBlanks i.text = '!' :: r
  · obtain ⟨r, hr⟩ := hb
    have h₁ := length_lt_of_skipBlanks_eq_cons hr
    rw [bind_of_ok (opt_of_ok (char_of_eq (i := { i with text := skipBlanks i.text }) hr))]
    dsimp only
    rw [outcome_unary_bang L _ hr, ← Outcome.ite_bind, map_eq]
    exact bind_tells (nested_told (Routine.run_flagsCut _ _) fun _ =>
      ih .unary _ (by simp only [Routine.rank] at hi ⊢; omega)) fun e r₂ _ => ⟨_, rfl, rfl, rfl⟩
  · rw [bind_of_ok (opt_of_backtrack (char_of_ne (i := { i with text := skipBlanks i.text })
      fun r hr => hb ⟨r, hr⟩))]
    dsimp only
    rw [outcome_unary_primary L _ fun r hr => hb ⟨r, hr⟩]
    have h₁ := skipBlanks_length_le i.text
    exact ih .primary _ (by simp only [Routine.rank] at hi ⊢; omega)

theorem answers_links {t : Tier} {lhs : Formula}
    (hi : i.text.length * 16 + (Routine.links t lhs).rank < fuel + 1) :
    ∃ res, (Routine.links t lhs).run (fuel + 1) i = some res ∧
      Tells ((Routine.links t lhs).outcome L i.nesting.depth i.text) res := by
  rw [Routine.run]
  simp only [Routine.outcome]
  cases ho : t.operator (skipBlanks i.text) with
  | none =>
    rw [bind_of_ok (opt_of_backtrack (preceded_ws_operator_of_none ho)),
      outcome_links_none L _ lhs ho]
    exact ⟨_, rfl, rfl, rfl⟩
  | some x =>
    obtain ⟨op, r₁⟩ := x
    have h₁ := length_lt_of_operator ho
    have hrank := (Routine.ofGoal t.operand).rank_lt
    rw [bind_of_ok (opt_of_ok (preceded_ws_operator_of_some ho)), outcome_links_some L _ lhs ho]
    dsimp only
    by_cases hd : i.nesting.depth < L
    · rw [if_pos hd, bind_of_ok (descend_of_lt (i := { i with text := r₁ }) hd),
        ← Routine.outcome_ofGoal]
      refine bind_tells (ih.told (Routine.isLevel_ofGoal_operand t) (by simp; omega))
        fun rhs r₂ hrhs => ?_
      rw [Routine.outcome_ofGoal] at hrhs
      have h₂ := (suffix_of_outcome hrhs).length_le
      exact ih (.links t (.binary op lhs rhs)) _ (by simp only [Routine.rank] at hi ⊢; omega)
    · rw [if_neg hd, bind_of_cut (descend_of_not_lt (i := { i with text := r₁ }) hd)]
      exact ⟨_, rfl, rfl⟩

theorem answers_chain {t : Tier} (hi : i.text.length * 16 + (Routine.chain t).rank < fuel + 1) :
    ∃ res, (Routine.chain t).run (fuel + 1) i = some res ∧
      Tells ((Routine.chain t).outcome L i.nesting.depth i.text) res := by
  rw [Routine.run]
  simp only [Routine.outcome]
  rw [outcome_chain, ← Routine.outcome_ofGoal]
  have hrank := Routine.rank_ofGoal_operand t
  have hbody := bind_tells (k := fun lhs => Routine.run fuel (.links t lhs))
    (K := fun lhs r => (step L (.links t lhs) i.nesting.depth r).outcome)
    (ih.told (i := i) (Routine.isLevel_ofGoal_operand t) (by omega)) fun lhs r hr => by
      rw [Routine.outcome_ofGoal] at hr
      have h := (suffix_of_outcome hr).length_le
      exact ih (.links t lhs) _ (by simp only [Routine.rank] at hi hrank ⊢; omega)
  obtain ⟨res, h, ht⟩ :=
    restoring_told ((Routine.run_flagsCut _ _).bind fun _ => Routine.run_flagsCut _ _) hbody
  exact ⟨res, h, ht.tells⟩

theorem answers_conditional (hi : i.text.length * 16 + Routine.conditional.rank < fuel + 1) :
    ∃ res, Routine.conditional.run (fuel + 1) i = some res ∧
      Tells (Routine.conditional.outcome L i.nesting.depth i.text) res := by
  rw [Routine.run]
  simp only [Routine.outcome]
  rw [outcome_conditional]
  simp only [Routine.rank] at hi
  refine bind_tells (ih.told rfl (by simp only [Routine.rank, Tier.level]; omega)) fun c r hc => ?_
  have hr := (suffix_of_outcome hc).length_le
  split
  next r₁ hq =>
    have h₁ := length_lt_of_skipBlanks_eq_cons hq
    rw [bind_of_ok (opt_of_ok (preceded_ws_char_of_eq hq))]
    dsimp only
    rw [← Outcome.ite_bind]
    refine bind_tells (nested_told (Routine.run_flagsCut _ _) fun _ =>
      ih .conditional _ (by simp only [Routine.rank]; omega)) fun y r₂ hy => ?_
    have hd : i.nesting.depth < L := by
      by_contra hd
      rw [if_neg hd] at hy
      cases hy
    rw [if_pos hd] at hy
    have h₂ := (suffix_of_outcome hy).length_le
    split
    next r₃ hc' =>
      have h₃ := length_lt_of_skipBlanks_eq_cons hc'
      rw [bind_of_ok (preceded_ws_char_of_eq hc')]
      exact bind_tells (nested_told_of_lt (Routine.run_flagsCut _ _) hd
        (ih .conditional _ (by simp only [Routine.rank]; omega))) fun no r₄ _ => ⟨_, rfl, rfl, rfl⟩
    next r₃ hc' =>
      rw [bind_of_backtrack (preceded_ws_char_of_ne hc')]
      exact ⟨_, rfl, rfl, rfl⟩
  next hq =>
    rw [bind_of_ok (opt_of_backtrack (preceded_ws_char_of_ne hq))]
    exact ⟨_, rfl, rfl, rfl⟩

end Steps

/-- Given fuel for sixteen calls per character, every routine returns and tells what `step`
reads in its place at the depth of its record. -/
theorem answers (fuel : Nat) : Answers L fuel := by
  induction fuel with
  | zero =>
    intro p i hi
    omega
  | succ fuel ih =>
    intro p i hi
    cases p with
    | conditional => exact answers_conditional ih i hi
    | chain t => exact answers_chain ih i hi
    | links t lhs => exact answers_links ih i hi
    | unary => exact answers_unary ih i hi
    | primary => exact answers_primary ih i hi
    | parenthesized => exact answers_parenthesized ih i hi

/-! ### More fuel keeps a finished run -/

namespace Parse

/-- Wherever `p` finishes, `q` finishes the same way. -/
def Extends (p q : Parse L α) : Prop := ∀ i res, p i = some res → q i = some res

theorem Extends.refl (p : Parse L α) : Extends p p := fun _ _ h => h

theorem Extends.bind {p p' : Parse L α} {k k' : α → Parse L β} (hp : Extends p p')
    (hk : ∀ a, Extends (k a) (k' a)) : Extends (p >>= k) (p' >>= k') := by
  intro i ⟨b, o⟩ h
  rcases bind_eq_some h with ⟨a, o₁, h₁, h₂⟩ | ⟨h₁, rfl⟩ | ⟨h₁, rfl⟩
  · rw [bind_of_ok (hp i _ h₁)]
    exact hk a o₁ _ h₂
  · exact bind_of_backtrack (hp i _ h₁)
  · exact bind_of_cut (hp i _ h₁)

theorem Extends.opt {p p' : Parse L α} (hp : Extends p p') :
    Extends (Parse.opt p) (Parse.opt p') := by
  intro i ⟨b, o⟩ h
  rcases opt_eq_some h with ⟨a, h₁, rfl⟩ | ⟨o₁, h₁, rfl, rfl⟩ | ⟨h₁, rfl⟩
  · exact opt_of_ok (hp i _ h₁)
  · exact opt_of_backtrack (hp i _ h₁)
  · rw [Parse.opt, hp i _ h₁]

theorem Extends.orElse {p p' q q' : Parse L α} (hp : Extends p p') (hq : Extends q q') :
    Extends (Parse.orElse p q) (Parse.orElse p' q') := by
  intro i ⟨b, o⟩ h
  rcases orElse_eq_some h with ⟨h₁, hb⟩ | ⟨o₁, h₁, h₂⟩
  · rw [Parse.orElse, hp i _ h₁]
    cases b with
    | backtrack => exact absurd rfl hb
    | ok a => rfl
    | cut => rfl
  · rw [orElse_of_backtrack (hp i _ h₁)]
    exact hq _ _ h₂

theorem Extends.restoring {p p' : Parse L α} (hp : Extends p p') :
    Extends (Parse.restoring p) (Parse.restoring p') := by
  intro i ⟨b, o⟩ h
  obtain ⟨o₁, h₁, rfl⟩ := restoring_eq_some h
  rw [Parse.restoring, hp i _ h₁]
  rfl

theorem Extends.nested {p p' : Parse L α} (hp : Extends p p') :
    Extends (Parse.nested p) (Parse.nested p') :=
  ((Extends.refl _).bind fun _ => hp).restoring

end Parse

theorem Routine.run_extends (fuel : Nat) (p : Routine) :
    Extends (p.run fuel : Parse L Formula) (p.run (fuel + 1)) := by
  induction fuel generalizing p with
  | zero =>
    intro i res h
    cases h
  | succ fuel ih =>
    cases p with
    | conditional =>
      refine (ih _).bind fun test => (Extends.refl _).bind fun x => ?_
      cases x with
      | none => exact .refl _
      | some => exact (ih _).nested.bind fun _ => (Extends.refl _).bind fun _ =>
          (ih _).nested.bind fun _ => .refl _
    | chain t => exact ((ih _).bind fun _ => ih _).restoring
    | links t lhs =>
      refine (Extends.refl _).bind fun x => ?_
      cases x with
      | none => exact .refl _
      | some op => exact (Extends.refl _).bind fun _ => (ih _).bind fun _ => ih _
    | unary =>
      refine (Extends.refl _).bind fun _ => (Extends.refl _).bind fun x => ?_
      cases x with
      | none => exact ih _
      | some => exact (ih _).nested.bind fun _ => .refl _
    | primary => exact (Extends.refl _).orElse ((Extends.refl _).orElse (ih _))
    | parenthesized =>
      exact (Extends.refl _).bind fun _ => (ih _).nested.bind fun _ => .refl _

theorem Routine.run_mono {fuel fuel' : Nat} (h : fuel ≤ fuel') (p : Routine) :
    Extends (p.run fuel : Parse L Formula) (p.run fuel') := by
  induction h with
  | refl => exact .refl _
  | step _ ih => exact fun i res hr => Routine.run_extends _ p i res (ih i res hr)

/-- Every routine of a level gives back the levels it takes and sets the flag exactly when it
cuts, however it ends; and it cuts exactly where `step`, reading in its place, reaches the
limit. The depth of every record is within the limit by the type of records. With fuel enough
for its text a run tells the outcome of `step`, and more fuel keeps what it tells. -/
theorem Routine.run_restores_nesting (p : Routine) (hp : p.isLevel) {fuel : Nat} {i o : Input L}
    {a : Answer Formula} (h : p.run fuel i = some (a, o)) :
    o.nesting.depth = i.nesting.depth ∧ o.nesting.exceeded = (i.nesting.exceeded || a.isCut) ∧
      (a = .cut ↔ p.outcome L i.nesting.depth i.text = .tooDeep) := by
  refine ⟨Routine.run_keepsDepth fuel p hp i a o h, Routine.run_flagsCut fuel p i a o h, ?_⟩
  have hlt : i.text.length * 16 + p.rank < max fuel (i.text.length * 16 + p.rank + 1) := by omega
  obtain ⟨res, hres, ht⟩ := answers _ p i hlt
  rw [Routine.run_mono (le_max_left _ _) p i _ h, Option.some.injEq] at hres
  subst hres
  exact ht.cut_iff

/-- Under the limit 1, the inner parenthesis of `((n))` finds no level left: the reading cuts
with the flag set, and the outer parenthesis still gives its level back. -/
theorem Routine.run_restores_nesting_cut :
    Routine.parenthesized.run 20 (start 1 ['(', '(', 'n', ')', ')']) =
        some (.cut, ⟨['n', ')', ')'], ⟨0, true, Nat.zero_le 1⟩⟩) ∧
      0 = 0 ∧ true = (false || Answer.isCut (α := Formula) .cut) ∧
      (Answer.cut = (Answer.cut : Answer Formula) ↔
        Routine.parenthesized.outcome 1 0 ['(', '(', 'n', ')', ')'] = .tooDeep) :=
  have h : Routine.parenthesized.run 20 (start 1 ['(', '(', 'n', ')', ')']) =
      some (.cut, ⟨['n', ')', ')'], ⟨0, true, Nat.zero_le 1⟩⟩) := by
    rfl
  ⟨h, Routine.run_restores_nesting .parenthesized rfl h⟩

end Descent

end PluralForms
