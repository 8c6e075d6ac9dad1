import Mathlib
import PluralForms.Proofs.Descent
import PluralForms.Proofs.Output

/-!
# Reading ends

Reading a formula or a header as a recursive descent ends on every text and under every limit,
also one that is never reached. Every call of a routine either reads on from a shorter text or
calls a routine that comes before it in `Routine.rank` on the same text: a conditional and a
unary formula call themselves only after a `?`, `:`, `(` or `!` has been taken, a chain goes on
only past an operator, and the descent through the tiers stops at a primary formula. So sixteen
calls per character are enough: a reading of a text `s` finishes within `16 * s.length + 16`
nested calls, whatever the limit (`readings_finish`), and ends with the answer of `Formula.read`
and of `Rule.readHeader`.
-/

namespace PluralForms

namespace Descent

open Text Formula Parse

variable {L : Nat}

/-- A conditional read from a fresh record, with fuel for sixteen calls per character, tells the
outcome of `step` from depth 0, and its flag is up exactly when it cuts. -/
theorem conditional_from_start (s : List Char) {fuel : Nat} (h : s.length * 16 + 15 < fuel) :
    ∃ a o, Routine.conditional.run fuel (start L s) = some (a, o) ∧
      Told (start L s).nesting (step L .conditional 0 s).outcome (a, o) ∧
        o.nesting.exceeded = a.isCut := by
  have hi : (start L s).text.length * 16 + Routine.conditional.rank < fuel := by
    simpa [start, Routine.rank] using h
  obtain ⟨⟨a, o⟩, hres, ht⟩ := (answers fuel).told rfl hi
  exact ⟨a, o, hres, ht, Routine.run_flagsCut fuel .conditional _ a o hres⟩

/-- Reading a whole formula, with fuel for sixteen calls per character, ends with the answer of
`Formula.read`. -/
theorem readFormula_eq_read (limits : Limits) (text : String) {fuel : Nat}
    (h : text.length * 16 + 15 < fuel) :
    readFormula fuel limits text = some (Formula.read limits text) := by
  obtain ⟨a, o, hres, ht, hflag⟩ := conditional_from_start (L := limits.maxDepth) text.toList
    (by simpa [String.length_toList] using h)
  unfold readFormula terminated Formula.read
  dsimp only
  generalize step limits.maxDepth .conditional 0 text.toList = x at ht ⊢
  cases x with
  | tooDeep =>
    obtain rfl : a = .cut := ht
    rw [bind_of_cut hres, Option.map_some]
    simp [finish, hflag, Answer.isCut]
  | fail r _ =>
    cases ht
    rw [bind_of_backtrack hres, Option.map_some]
    rfl
  | ok e r _ =>
    cases ht
    rw [bind_of_ok hres, bind_of_ok (ws_apply _), pure_apply, Option.map_some]
    dsimp only
    cases skipBlanks r <;> rfl

/-! ### Headers -/

namespace Parse

variable {i : Input L} {w r : List Char}

theorem word_of_some (h : Header.dropWord w i.text = some r) :
    word w i = some (.ok (), { i with text := r }) :=
  token_of_some (by rw [h]; rfl)

theorem word_of_none (h : Header.dropWord w i.text = none) : word w i = some (.backtrack, i) :=
  token_of_none (by rw [h]; rfl)

theorem wordIgnoringCase_of_some (h : Header.dropWordIgnoringCase w i.text = some r) :
    wordIgnoringCase w i = some (.ok (), { i with text := r }) :=
  token_of_some (by rw [h]; rfl)

theorem wordIgnoringCase_of_none (h : Header.dropWordIgnoringCase w i.text = none) :
    wordIgnoringCase w i = some (.backtrack, i) :=
  token_of_none (by rw [h]; rfl)

end Parse

theorem opt_label (i : Input L) :
    ∃ x, Parse.opt (do
        wordIgnoringCase "plural-forms".toList
        ws
        char ':') i = some (.ok x, { i with text := Header.afterLabel i.text }) := by
  unfold Header.afterLabel
  cases hl : Header.dropWordIgnoringCase "plural-forms".toList i.text with
  | none => exact ⟨_, opt_of_backtrack (bind_of_backtrack (wordIgnoringCase_of_none hl))⟩
  | some r =>
    have hin : ∀ c : Parse L Unit, (do
        wordIgnoringCase "plural-forms".toList
        ws
        c) i = c ⟨skipBlanks r, i.nesting⟩ := fun c => by
      rw [bind_of_ok (wordIgnoringCase_of_some hl), bind_of_ok (ws_apply _)]
    dsimp only
    split
    next r' hc => exact ⟨_, opt_of_ok ((hin _).trans (char_of_eq hc))⟩
    next hc => exact ⟨none, by rw [opt_of_backtrack ((hin _).trans (char_of_ne hc))]⟩

/-- The run of the parts of a header tells the outcome `x` of the scanner: the count, the tree
and the text after the closing blanks, or a backtrack where the scanner stopped, the record as
it was; or a cut with the flag set. -/
def ScanTold (n : Nesting L) : Header.Scan → Answer (Int64 × Formula) × Input L → Prop
  | .ok count e rest, res => res = (.ok (count, e), ⟨rest, n⟩)
  | .fail r, res => res = (.backtrack, ⟨r, n⟩)
  | .tooDeep, res => res.1 = .cut ∧ res.2.nesting.exceeded = true

/-- The blanks, the optional `;` and the blanks after the formula leave the reading where the
scanner ends. -/
theorem formula_tail (v : Int64 × Formula) (i : Input L) :
    (do
      ws
      let _ ← Parse.opt (char ';')
      ws
      pure v : Parse L (Int64 × Formula)) i =
        some (.ok v, { i with text := Header.afterFormula i.text }) := by
  rw [bind_of_ok (ws_apply _), Header.afterFormula]
  split
  next t ht =>
    rw [bind_of_ok (opt_of_ok (char_of_eq ht)), bind_of_ok (ws_apply _), pure_apply]
  next ht =>
    rw [bind_of_ok (opt_of_backtrack (char_of_ne ht)), bind_of_ok (ws_apply _), pure_apply]
    simp only [skipBlanks_skipBlanks]

/-- The formula after `plural =`, and the blanks and `;` after it, are read as the scanner reads
them. -/
theorem formula_part_told (count : Int64) (s : List Char) {fuel : Nat}
    (h : s.length * 16 + 15 < fuel) :
    ∃ res, (do
        let root ← Routine.run fuel .conditional
        ws
        let _ ← Parse.opt (char ';')
        ws
        pure (count, root) : Parse L (Int64 × Formula)) (start L s) = some res ∧
      ScanTold (start L s).nesting
        (Header.ofFormula count (step L .conditional 0 s).outcome) res := by
  obtain ⟨a, o, hres, ht, hflag⟩ := conditional_from_start s h
  generalize (step L .conditional 0 s).outcome = y at ht ⊢
  cases y with
  | tooDeep =>
    obtain rfl : a = .cut := ht
    exact ⟨_, bind_of_cut hres, rfl, hflag⟩
  | fail r =>
    cases ht
    exact ⟨_, bind_of_backtrack hres, rfl⟩
  | ok e r =>
    cases ht
    rw [bind_of_ok hres, formula_tail]
    exact ⟨_, rfl, rfl⟩

/-- With fuel for sixteen calls per character, the parts of a header are read as the scanner
reads them. The formula starts at a suffix of the header, so the fuel is enough for it too. -/
theorem pluralForms_told (s : List Char) {fuel : Nat} (h : s.length * 16 + 15 < fuel) :
    ∃ res, pluralForms fuel (start L s) = some res ∧
      ScanTold (start L s).nesting (Header.scan L s) res := by
  unfold pluralForms Header.scan
  dsimp only [start]
  obtain ⟨x, hx⟩ := opt_label (⟨skipBlanks s, ⟨0, false, Nat.zero_le L⟩⟩ : Input L)
  rw [bind_of_ok (ws_apply _), bind_of_ok hx, bind_of_ok (ws_apply _)]
  dsimp only
  split
  next h₃ =>
    rw [bind_of_backtrack (word_of_none h₃)]
    exact ⟨_, rfl, rfl⟩
  next s₃ h₃ =>
    rw [bind_of_ok (word_of_some h₃), bind_of_ok (ws_apply _)]
    dsimp only
    split
    next s₅ h₅ =>
      rw [bind_of_ok (char_of_eq h₅), bind_of_ok (ws_apply _)]
      dsimp only
      split
      next h₆ =>
        rw [bind_of_backtrack (literal_of_none h₆)]
        exact ⟨_, rfl, rfl⟩
      next count s₇ h₇ =>
        rw [bind_of_ok (literal_of_some h₇), bind_of_ok (ws_apply _)]
        dsimp only
        split
        next s₉ h₉ =>
          rw [bind_of_ok (char_of_eq h₉), bind_of_ok (ws_apply _)]
          dsimp only
          split
          next h₁₀ =>
            rw [bind_of_backtrack (word_of_none h₁₀)]
            exact ⟨_, rfl, rfl⟩
          next s₁₁ h₁₁ =>
            rw [bind_of_ok (word_of_some h₁₁), bind_of_ok (ws_apply _)]
            dsimp only
            split
            next s₁₃ h₁₃ =>
              rw [bind_of_ok (char_of_eq h₁₃)]
              have hsuffix : s₁₃ <:+ s :=
                (Header.skipBlanks_cons_suffix h₁₃).trans <| (Header.dropWord_suffix h₁₁).trans <|
                  (skipBlanks_suffix _).trans <| (Header.skipBlanks_cons_suffix h₉).trans <|
                  (readLiteral?_suffix h₇).trans <| (skipBlanks_suffix _).trans <|
                  (Header.skipBlanks_cons_suffix h₅).trans <| (Header.dropWord_suffix h₃).trans <|
                  (skipBlanks_suffix _).trans <| (Header.afterLabel_suffix _).trans <|
                  skipBlanks_suffix _
              have hfuel : s₁₃.length * 16 + 15 < fuel := by
                have := hsuffix.length_le
                omega
              obtain ⟨res, hres, ht⟩ := formula_part_told (L := L) count s₁₃ hfuel
              refine ⟨res, hres, ?_⟩
              cases hy : step L .conditional 0 s₁₃ <;> rw [hy] at ht <;> exact ht
            next h₁₃ =>
              rw [bind_of_backtrack (char_of_ne h₁₃)]
              exact ⟨_, rfl, rfl⟩
        next h₉ =>
          rw [bind_of_backtrack (char_of_ne h₉)]
          exact ⟨_, rfl, rfl⟩
    next h₅ =>
      rw [bind_of_backtrack (char_of_ne h₅)]
      exact ⟨_, rfl, rfl⟩

/-- Reading a whole header, with fuel for sixteen calls per character, ends with the answer of
`Rule.readHeader`. -/
theorem readHeader_eq_readHeader (limits : Limits) (text : String) {fuel : Nat}
    (h : text.length * 16 + 15 < fuel) :
    readHeader fuel limits text = some (Rule.readHeader limits text) := by
  obtain ⟨⟨a, o⟩, hres, ht⟩ :=
    pluralForms_told (L := limits.maxDepth) text.toList (by simpa [String.length_toList] using h)
  unfold readHeader Rule.readHeader
  dsimp only
  rw [hres, Option.map_some]
  generalize Header.scan limits.maxDepth text.toList = x at ht ⊢
  cases x with
  | tooDeep =>
    obtain ⟨rfl, hflag⟩ := ht
    simp only at hflag
    simp [finish, hflag]
  | fail r =>
    cases ht
    rfl
  | ok count e rest =>
    cases ht
    cases rest <;> rfl

/-- Reading a formula or a header ends on every text and under every limit: with fuel for
sixteen calls per character, neither runs out, and each gives the answer of the reading it
stands for. -/
theorem readings_finish (limits : Limits) (text : String) :
    readFormula (text.length * 16 + 16) limits text = some (Formula.read limits text) ∧
      readHeader (text.length * 16 + 16) limits text = some (Rule.readHeader limits text) :=
  ⟨readFormula_eq_read limits text (by omega), readHeader_eq_readHeader limits text (by omega)⟩

end Descent

end PluralForms
