import Mathlib
import PluralForms.Proofs.Header

/-!
# Raising the nesting limit

The limit enters a reading only through the test `d < L` in front of each level taken, and a
failed test ends the whole reading. Under a higher limit a reading therefore takes the same steps
and ends the same way, unless it reached the limit, which the higher one may let it pass
(`outcome_raise_limit`).

So every text has a least limit that it needs. Under a lower one, reading it reports the limit;
from that one on, the answer no longer changes and is the answer under a limit that is never
reached, such as the length of the text (`read_least_limit`). The same holds of headers, in which
the limit reaches only the formula.
-/

namespace PluralForms

namespace Formula

open Text

namespace Outcome.UpToLimit

/-- Two readings that agree up to the limit, continued by continuations that agree up to the
limit wherever the first reading can be continued. -/
theorem bind_mono {o o' : Outcome} {k k' : Formula → List Char → Outcome} (h : o.UpToLimit o')
    (hk : ∀ e r, o = .ok e r → (k e r).UpToLimit (k' e r)) :
    (o.bind k).UpToLimit (o'.bind k') := by
  rcases h with rfl | rfl
  · cases o with
    | ok e r => exact hk e r rfl
    | fail r => exact .refl _
    | tooDeep => exact .refl _
  · exact .inr rfl

theorem raise {d L L' : Nat} (hL : L ≤ L') {o o' : Outcome} (h : d < L → o.UpToLimit o') :
    (if d < L then o else .tooDeep).UpToLimit (if d < L' then o' else .tooDeep) := by
  by_cases hd : d < L
  · rw [if_pos hd, if_pos (by omega)]
    exact h hd
  · rw [if_neg hd]
    exact .inr rfl

end Outcome.UpToLimit

/-- Raising the limit keeps the outcome of every reading that did not reach it: the two readings
take the same steps, level for level, until the lower limit stops one. -/
theorem outcome_raise_limit {L L' : Nat} (hL : L ≤ L') (g : Goal) (d : Nat) (s : List Char) :
    (step L g d s).outcome.UpToLimit (step L' g d s).outcome := by
  induction g, s using goal_induction generalizing d with
  | conditional s hchain hcond =>
    rw [outcome_conditional, outcome_conditional]
    refine (hchain d).bind_mono fun c r hc => ?_
    have hr := (suffix_of_outcome hc).length_le
    split
    next r₁ hq =>
      have h₁ := length_lt_of_skipBlanks_eq_cons hq
      refine .raise hL fun _ => (hcond r₁ (by omega) (d + 1)).bind_mono fun y r₂ hy => ?_
      have h₂ := (suffix_of_outcome hy).length_le
      split
      next r₃ hq₃ =>
        have h₃ := length_lt_of_skipBlanks_eq_cons hq₃
        exact (hcond r₃ (by omega) (d + 1)).bind_mono fun _ _ _ => .refl _
      next => exact .refl _
    next => exact .refl _
  | chain t s hop hlinks =>
    rw [outcome_chain, outcome_chain]
    exact (hop d).bind_mono fun lhs r hr => hlinks r (suffix_of_outcome hr).length_le lhs d
  | links t lhs s hop hlinks =>
    cases ho : t.operator (skipBlanks s) with
    | none =>
      rw [outcome_links_none L d lhs ho, outcome_links_none L' d lhs ho]
      exact .refl _
    | some p =>
      obtain ⟨op, r₁⟩ := p
      have h₁ := length_lt_of_operator ho
      rw [outcome_links_some L d lhs ho, outcome_links_some L' d lhs ho]
      refine .raise hL fun _ => (hop r₁ h₁ (d + 1)).bind_mono fun rhs r₂ hr₂ => ?_
      have h₂ := (suffix_of_outcome hr₂).length_le
      exact hlinks r₂ (by omega) _ (d + 1)
  | unary s hunary hprimary =>
    by_cases hb : ∃ r, skipBlanks s = '!' :: r
    · obtain ⟨r, hr⟩ := hb
      rw [outcome_unary_bang L d hr, outcome_unary_bang L' d hr]
      exact .raise hL fun _ => (hunary r (length_lt_of_skipBlanks_eq_cons hr) (d + 1)).bind_mono
        fun _ _ _ => .refl _
    · have hb' : ∀ r, skipBlanks s ≠ '!' :: r := fun r hr => hb ⟨r, hr⟩
      rw [outcome_unary_primary L d hb', outcome_unary_primary L' d hb']
      exact hprimary _ (skipBlanks_length_le s) d
  | primary s hcond =>
    by_cases hn : ∃ r, s = 'n' :: r
    · obtain ⟨r, rfl⟩ := hn
      rw [outcome_var, outcome_var]
      exact .refl _
    by_cases hp : ∃ r, s = '(' :: r
    · obtain ⟨r, rfl⟩ := hp
      rw [outcome_paren, outcome_paren]
      exact .raise hL fun _ => (hcond r (by simp) (d + 1)).bind_mono fun _ _ _ => .refl _
    · have hn' : ∀ r, s ≠ 'n' :: r := fun r hr => hn ⟨r, hr⟩
      have hp' : ∀ r, s ≠ '(' :: r := fun r hr => hp ⟨r, hr⟩
      rw [outcome_literal L d hn' hp', outcome_literal L' d hn' hp']
      exact .refl _

/-- A family of answers indexed by the limit, each of which is the one at any higher limit
unless it is the answer `bot` that reports its own limit, and which a limit `N` does not
report, has a least limit `k`: below it every answer reports the limit, and from it on every
answer is the one at `N`. -/
theorem exists_least_limit {α : Type} {f bot : Nat → α}
    (hmono : ∀ L L', L ≤ L' → f L = bot L ∨ f L = f L') {N : Nat} (hN : f N ≠ bot N) :
    ∃ k ≤ N, ∀ D, (D < k → f D = bot D) ∧ (k ≤ D → f D = f N) := by
  classical
  have hex : ∃ L, f L ≠ bot L := ⟨N, hN⟩
  refine ⟨Nat.find hex, Nat.find_min' hex hN, fun D => ⟨fun hD => ?_, fun hD => ?_⟩⟩
  · by_contra h
    exact Nat.find_min hex hD h
  · have hk := Nat.find_spec hex
    have hD' := (hmono _ D hD).resolve_left hk
    have hN' := (hmono _ N (Nat.find_min' hex hN)).resolve_left hk
    rw [← hD', hN']

section Read

variable {text : String}

theorem read_eq_of_outcome_eq {l l' : Limits}
    (h : (step l.maxDepth .conditional 0 text.toList).outcome =
      (step l'.maxDepth .conditional 0 text.toList).outcome)
    (hne : (step l.maxDepth .conditional 0 text.toList).outcome ≠ .tooDeep) :
    read l text = read l' text := by
  unfold read
  dsimp only
  generalize step l.maxDepth .conditional 0 text.toList = x at h hne ⊢
  generalize step l'.maxDepth .conditional 0 text.toList = y at h ⊢
  cases x <;> cases y <;> simp_all

theorem read_raise_limit {L L' : Nat} (hL : L ≤ L') :
    read ⟨L⟩ text = .error (.nestingTooDeep L) ∨ read ⟨L⟩ text = read ⟨L'⟩ text := by
  rcases outcome_raise_limit hL .conditional 0 text.toList with h | h
  · by_cases hne : (step L .conditional 0 text.toList).outcome = .tooDeep
    · exact .inl (read_of_tooDeep hne)
    · exact .inr (read_eq_of_outcome_eq h hne)
  · exact .inl (read_of_tooDeep h)

theorem read_ne_nestingTooDeep_length :
    read ⟨text.length⟩ text ≠ .error (.nestingTooDeep text.length) := by
  intro h
  have hne := outcome_ne_tooDeep (L := text.length) .conditional 0 text.toList
    (by rw [String.length_toList]; omega)
  rcases read_error h with h' | ⟨_, _, _, h'⟩
  · exact hne h'
  · cases h'

end Read

end Formula

namespace Header

open Formula

/-- Raising the limit keeps the answer of the scanner, unless the lower limit was reached: the
pieces it reads before the formula do not look at the limit. -/
theorem scan_raise_limit {L L' : Nat} (hL : L ≤ L') (s : List Char) :
    scan L s = .tooDeep ∨ scan L s = scan L' s := by
  unfold scan
  dsimp only
  split
  next => exact .inr rfl
  next =>
    split
    next =>
      split
      next => exact .inr rfl
      next =>
        split
        next =>
          split
          next => exact .inr rfl
          next =>
            split
            next x _ =>
              have h := outcome_raise_limit hL .conditional 0 x
              generalize step L .conditional 0 x = y at h ⊢
              generalize step L' .conditional 0 x = y' at h ⊢
              cases y <;> cases y' <;> simp_all [Outcome.UpToLimit]
            next => exact .inr rfl
        next => exact .inr rfl
    next => exact .inr rfl

theorem scan_ne_tooDeep {L : Nat} {s : List Char} (h : s.length ≤ L) : scan L s ≠ .tooDeep := by
  intro hd
  rcases scan_cases L s with ⟨r, hr⟩ | ⟨pre, x, c, rfl, -, hscan⟩
  · rw [hr] at hd
    cases hd
  · have hx : 0 + x.length ≤ L := by
      simp only [List.length_append] at h
      omega
    have hne := outcome_ne_tooDeep .conditional 0 x hx
    rw [hscan] at hd
    cases ho : (step L .conditional 0 x).outcome with
    | ok e r =>
      rw [ho] at hd
      cases hd
    | fail r =>
      rw [ho] at hd
      cases hd
    | tooDeep => exact hne ho

end Header

namespace Rule

open Formula Header

variable {text : String}

theorem readHeader_of_tooDeep {limits : Limits}
    (h : scan limits.maxDepth text.toList = .tooDeep) :
    readHeader limits text = .error (.parse (.nestingTooDeep limits.maxDepth)) := by
  unfold readHeader
  simp only [h]

theorem scan_of_readHeader_nestingTooDeep {limits : Limits} {m : Nat}
    (h : readHeader limits text = .error (.parse (.nestingTooDeep m))) :
    scan limits.maxDepth text.toList = .tooDeep := by
  unfold readHeader at h
  dsimp only at h
  split at h
  next hs => exact hs
  next => simp [Formula.stoppedAt] at h
  next => split at h <;> cases h
  next => simp [Formula.stoppedAt] at h

theorem readHeader_eq_of_scan_eq {l l' : Limits}
    (h : scan l.maxDepth text.toList = scan l'.maxDepth text.toList)
    (hne : scan l.maxDepth text.toList ≠ .tooDeep) :
    readHeader l text = readHeader l' text := by
  unfold readHeader
  dsimp only
  rw [h] at hne ⊢
  cases hs : scan l'.maxDepth text.toList with
  | tooDeep => exact absurd hs hne
  | fail r => rfl
  | ok count e rest => cases rest <;> rfl

theorem readHeader_raise_limit {L L' : Nat} (hL : L ≤ L') :
    readHeader ⟨L⟩ text = .error (.parse (.nestingTooDeep L)) ∨
      readHeader ⟨L⟩ text = readHeader ⟨L'⟩ text := by
  by_cases hd : scan L text.toList = .tooDeep
  · exact .inl (readHeader_of_tooDeep hd)
  · exact .inr (readHeader_eq_of_scan_eq ((scan_raise_limit hL _).resolve_left hd) hd)

theorem readHeader_ne_nestingTooDeep_length :
    readHeader ⟨text.length⟩ text ≠ .error (.parse (.nestingTooDeep text.length)) := by
  intro h
  exact scan_ne_tooDeep (by rw [String.length_toList]) (scan_of_readHeader_nestingTooDeep h)

end Rule

namespace Formula

/-- Every text has a least nesting limit it needs, at most its length: under a lower limit
reading it reports the limit, and from that limit on it gives the answer it gives under a limit
that is never reached; the same holds of headers. In particular, a text accepted under a limit
is accepted, with the same tree, under every higher one. -/
theorem read_least_limit (text : String) :
    (∃ k ≤ text.length, ∀ D : Nat,
      (D < k → read ⟨D⟩ text = .error (.nestingTooDeep D)) ∧
      (k ≤ D → read ⟨D⟩ text = read ⟨text.length⟩ text)) ∧
    (∃ k ≤ text.length, ∀ D : Nat,
      (D < k → Rule.readHeader ⟨D⟩ text = .error (.parse (.nestingTooDeep D))) ∧
      (k ≤ D → Rule.readHeader ⟨D⟩ text = Rule.readHeader ⟨text.length⟩ text)) :=
  ⟨exists_least_limit (fun _ _ hL => read_raise_limit hL) read_ne_nestingTooDeep_length,
    exists_least_limit (fun _ _ hL => Rule.readHeader_raise_limit hL)
      Rule.readHeader_ne_nestingTooDeep_length⟩

end Formula

end PluralForms
