import Mathlib
import PluralForms.Proofs.Printing

/-!
# Reading a header

A header reads as a rule exactly when it has the shape its grammar gives (`Header.Shape`):
blanks, an optional label `plural-forms` in any ASCII case followed by `:`, then `nplurals`, `=`,
the digits of a count that fits a signed word, `;`, `plural`, `=`, a formula, an optional `;`
and blanks to the end, with blanks allowed before every token. The rule's count is the count
written and its formula is the tree the reader gives for the formula text on its own; a count of
zero is refused as a rule, and every other header is a reading error (`readHeader_iff_shape`).

The scanner reads the formula from the text after `plural=` to the end, while the grammar speaks
of the formula text alone. The two agree because a phrase of the formula grammar is read the same
way before every text that cannot continue it, the nesting limit included: `Derives.exact` gives
the number of levels reading a phrase takes, which does not depend on what follows it.
-/

namespace PluralForms

namespace Formula

open Text

section Phrases

/-- How reading a phrase of each symbol ends, whatever stops it: `n` is the number of levels the
phrase takes beyond the depth reading starts at, and a phrase of a tier is read up to the point
where its chain would go on with another link, `k` levels deeper. A primary phrase is read as a
unary one. -/
def Exact : Symbol → List Char → Formula → Nat → Prop
  | .formula, w, e, n => ∀ L, Phrase L .conditional w e n
  | .tier t, w, e, n => ∃ k, ∀ L, ChainPhrase L t w e n k
  | .unary, w, e, n | .primary, w, e, n => ∀ L, Phrase L .unary w e n

theorem Exact.operand {t : Tier} {w : List Char} {e : Formula} {n : Nat}
    (h : Exact t.operandSymbol w e n) (L : Nat) : Phrase L t.operand w e n := by
  cases t with
  | multiplicative => exact h L
  | additive | relational | equality | conjunction | disjunction =>
    obtain ⟨k, hk⟩ := h
    exact (hk L).phrase

theorem Derives.exact {X : Symbol} {w : List Char} {e : Formula} (h : Derives X w e) :
    ∃ n, Exact X w e n := by
  induction h with
  | conditional _ h₂ _ h₄ _ ih₁ ih₃ ih₅ =>
    obtain ⟨n₁, k, h₁⟩ := ih₁
    obtain ⟨n₃, h₃⟩ := ih₃
    obtain ⟨n₅, h₅⟩ := ih₅
    exact ⟨_, fun L => (h₁ L).phrase.ternary_token h₂ (h₃ L) h₄ (h₅ L)⟩
  | disjunction _ ih =>
    obtain ⟨n, k, h⟩ := ih
    exact ⟨n, fun L => (h L).phrase.conditional⟩
  | link _ hop h₂ d₃ ih₁ ih₃ =>
    obtain ⟨n₁, k, h₁⟩ := ih₁
    obtain ⟨n₃, h₃⟩ := ih₃
    exact ⟨_, k + 1, fun L => (h₁ L).link_token hop h₂ (h₃.operand L) d₃.ne_eq_cons⟩
  | operand _ ih =>
    obtain ⟨n, h⟩ := ih
    exact ⟨n, 0, fun L => (h.operand L).chain⟩
  | not h₁ _ ih =>
    obtain ⟨n, h⟩ := ih
    exact ⟨n + 1, fun L => (h L).not_token h₁⟩
  | primary _ ih => exact ih
  | var h =>
    obtain ⟨b, hb, rfl⟩ := h
    exact ⟨0, fun L => Phrase.var.unary_blanks hb (by decide) (by decide)⟩
  | num h hne hds hv =>
    obtain ⟨b, hb, rfl⟩ := h
    obtain ⟨c, ds, rfl⟩ := List.exists_cons_of_ne_nil hne
    have hc := hds c List.mem_cons_self
    exact ⟨0, fun L => (Phrase.digits hne hds hv).unary_blanks hb (not_isBlank_of_isDigit hc)
      (ne_of_isDigit hc rfl)⟩
  | paren h₁ _ h₃ ih =>
    obtain ⟨n, h⟩ := ih
    obtain ⟨b, hb, rfl⟩ := h₁
    refine ⟨n + 1, fun L => ?_⟩
    have h' := ((h L).paren_token h₃).unary_blanks hb (by decide) (by decide)
    simpa using h'

/-- A formula is read the same way before every text that stops it: read before one such text
under a limit, it is read before every other under the same limit. -/
theorem Derives.outcome_before {w r r' : List Char} {e : Formula} {L d : Nat}
    (h : Derives .formula w e) (hd : d ≤ L) (hr : Goal.conditional.Stops r)
    (hr' : Goal.conditional.Stops r') (ho : (step L .conditional d (w ++ r)).outcome = .ok e r) :
    (step L .conditional d (w ++ r')).outcome = .ok e r' := by
  obtain ⟨n, hn⟩ := h.exact
  rw [hn L d r hd hr] at ho
  rw [hn L d r' hd hr']
  split at ho
  next hle => rw [if_pos hle]
  next => cases ho

end Phrases

section Tokens

theorem Blanks.append {b b' : List Char} (hb : Blanks b) (hb' : Blanks b') : Blanks (b ++ b') :=
  fun c hc => (List.mem_append.1 hc).elim (hb c) (hb' c)

theorem blanks_of_skipBlanks {r : List Char} (h : skipBlanks r = []) : Blanks r := by
  obtain ⟨b, hb, hr⟩ := blanks_append_skipBlanks r
  rw [h, List.append_nil] at hr
  exact hr ▸ hb

theorem IsToken.skipBlanks_of_head {tok w : List Char} (hw : IsToken tok w) {c : Char}
    {t : List Char} (htok : tok = c :: t) (hc : ¬ IsBlank c) (x : List Char) :
    Text.skipBlanks (w ++ x) = tok ++ x := by
  subst htok
  exact hw.skipBlanks hc x

end Tokens

end Formula

namespace Header

open Formula Text

/-! ### The shape of a header -/

/-- A label `plural-forms`, in any ASCII case. -/
def IsLabel (w : List Char) : Prop :=
  w.map Char.toLower = "plural-forms".toList

/-- The digits of a count that fits a signed word. -/
def IsCount (ds : List Char) (count : Nat) : Prop :=
  ds ≠ [] ∧ (∀ c ∈ ds, c.isDigit) ∧ Nat.ofDigitChars 10 ds 0 = count ∧ count ≤ 2 ^ 63 - 1

/-- The optional label: nothing, or the label and a `:`. -/
def LabelPart (w : List Char) : Prop :=
  w = [] ∨ ∃ lab w₁ w₂, w = w₁ ++ w₂ ∧ IsLabel lab ∧ IsToken lab w₁ ∧ IsToken [':'] w₂

/-- The text before the formula, with blanks allowed before every token: the optional label,
then `nplurals = COUNT ; plural =`. -/
def Lead (pre : List Char) (count : Nat) : Prop :=
  ∃ wl w₁ w₂ w₃ ds w₄ w₅ w₆, pre = wl ++ w₁ ++ w₂ ++ w₃ ++ w₄ ++ w₅ ++ w₆ ∧ LabelPart wl ∧
    IsToken "nplurals".toList w₁ ∧ IsToken ['='] w₂ ∧ IsToken ds w₃ ∧ IsCount ds count ∧
    IsToken [';'] w₄ ∧ IsToken "plural".toList w₅ ∧ IsToken ['='] w₆

/-- The text after the formula: blanks, an optional `;`, blanks. -/
def Tail (post : List Char) : Prop :=
  Blanks post ∨ ∃ w b, post = w ++ b ∧ IsToken [';'] w ∧ Blanks b

/-- A header of the shape the grammar gives, with the count `count` and the formula text `F`. -/
def Shape (h : List Char) (count : Nat) (F : List Char) : Prop :=
  ∃ pre post, h = pre ++ F ++ post ∧ Lead pre count ∧ Tail post

/-- What the scanner makes of the outcome of reading the formula after `plural=`. -/
def ofFormula (count : Int64) : Outcome → Scan
  | .ok e r => .ok count e (afterFormula r)
  | .fail r => .fail r
  | .tooDeep => .tooDeep

theorem Lead.count_le {pre : List Char} {count : Nat} (h : Lead pre count) :
    count ≤ 2 ^ 63 - 1 := by
  obtain ⟨_, _, _, _, _, _, _, _, -, -, -, -, -, ⟨-, -, -, hc⟩, -⟩ := h
  exact hc

/-! ### The pieces the scanner reads -/

theorem dropWord_eq_some {word s r : List Char} (h : dropWord word s = some r) :
    s = word ++ r := by
  unfold dropWord at h
  split at h
  next hp =>
    cases h
    exact (List.prefix_iff_eq_append.1 (List.isPrefixOf_iff_prefix.1 hp)).symm
  next => cases h

@[simp] theorem dropWord_append (word r : List Char) : dropWord word (word ++ r) = some r := by
  simp [dropWord]

theorem IsLabel.length {lab : List Char} (h : IsLabel lab) : lab.length = 12 := by
  have h' := congrArg List.length h
  simpa using h'

theorem IsLabel.head {lab : List Char} (h : IsLabel lab) :
    ∃ c t, lab = c :: t ∧ ¬ IsBlank c := by
  cases lab with
  | nil => simp [IsLabel] at h
  | cons c t =>
    refine ⟨c, t, rfl, ?_⟩
    have hc : c.toLower = 'p' := by
      simp only [IsLabel, List.map_cons] at h
      exact (List.cons.inj h).1
    rintro (rfl | rfl | rfl | rfl | rfl) <;> exact absurd hc (by decide)

theorem dropLabel_eq_some {s r : List Char}
    (h : dropWordIgnoringCase "plural-forms".toList s = some r) :
    s = s.take 12 ++ r ∧ IsLabel (s.take 12) := by
  unfold dropWordIgnoringCase at h
  split at h
  next hp =>
    cases h
    simp only [Bool.and_eq_true, decide_eq_true_eq] at hp
    obtain ⟨hp, hlen⟩ := hp
    have hword : "plural-forms".toList.length = 12 := rfl
    have hlower : "plural-forms".toList.map Char.toLower = "plural-forms".toList := by decide
    rw [hword] at hp hlen ⊢
    refine ⟨(List.take_append_drop 12 s).symm, ?_⟩
    have hpre := List.isPrefixOf_iff_prefix.1 hp
    rw [hlower] at hpre
    exact (hpre.eq_of_length (by simp; omega)).symm
  next => cases h

theorem dropLabel_label {lab : List Char} (h : IsLabel lab) (y : List Char) :
    dropWordIgnoringCase "plural-forms".toList (lab ++ y) = some y := by
  have hl := h.length
  have hword : "plural-forms".toList.length = 12 := rfl
  have hlower : "plural-forms".toList.map Char.toLower = "plural-forms".toList := by decide
  unfold dropWordIgnoringCase
  rw [hword, List.take_left' hl, List.drop_left' hl, if_pos]
  rw [hlower, h]
  simp [hl]

theorem afterLabel_cases (s : List Char) :
    afterLabel s = s ∨ ∃ lab w, s = lab ++ w ++ afterLabel s ∧ IsLabel lab ∧ IsToken [':'] w := by
  unfold afterLabel
  split
  next r hr =>
    obtain ⟨hs, hlab⟩ := dropLabel_eq_some hr
    split
    next r' hc =>
      obtain ⟨b, hb, hr'⟩ := skipBlanks_eq_cons hc
      refine .inr ⟨s.take 12, b ++ [':'], ?_, hlab, ⟨b, hb, rfl⟩⟩
      rw [List.append_assoc, List.append_assoc, List.singleton_append, ← hr']
      exact hs
    next => exact .inl rfl
  next => exact .inl rfl

theorem front_label {wl w₁ : List Char} (hl : LabelPart wl) (h₁ : IsToken "nplurals".toList w₁)
    (y : List Char) :
    skipBlanks (afterLabel (skipBlanks (wl ++ (w₁ ++ y)))) = "nplurals".toList ++ y := by
  have hn : skipBlanks (w₁ ++ y) = "nplurals".toList ++ y := h₁.skipBlanks_of_head rfl (by decide) y
  have hword : skipBlanks ("nplurals".toList ++ y) = "nplurals".toList ++ y := by
    simp [skipBlanks, isBlank]
  rcases hl with rfl | ⟨lab, w, w', rfl, hlab, hw, hw'⟩
  · have hkeep : afterLabel ("nplurals".toList ++ y) = "nplurals".toList ++ y := by
      simp [afterLabel, dropWordIgnoringCase]
    rw [List.nil_append, hn, hkeep, hword]
  · obtain ⟨c, t, hct, hc⟩ := hlab.head
    have hs : skipBlanks (w ++ w' ++ (w₁ ++ y)) = lab ++ (w' ++ (w₁ ++ y)) := by
      rw [List.append_assoc]
      exact hw.skipBlanks_of_head hct hc _
    have hafter : afterLabel (lab ++ (w' ++ (w₁ ++ y))) = w₁ ++ y := by
      unfold afterLabel
      rw [dropLabel_label hlab]
      simp only []
      rw [hw'.skipBlanks (by decide)]
      rfl
    rw [hs, hafter, hn]

theorem scan_lead {pre : List Char} {count : Nat} (h : Lead pre count) (L : Nat) (x : List Char) :
    scan L (pre ++ x) = ofFormula (Int64.ofNat count) (step L .conditional 0 x).outcome := by
  obtain ⟨wl, w₁, w₂, w₃, ds, w₄, w₅, w₆, rfl, hl, h₁, h₂, h₃, ⟨hne, hds, rfl, hv⟩, h₄, h₅, h₆⟩ := h
  obtain ⟨c, t, hct⟩ := List.exists_cons_of_ne_nil hne
  have hc : c.isDigit := hds c (hct ▸ List.mem_cons_self)
  have e₁ := front_label hl h₁ (w₂ ++ (w₃ ++ (w₄ ++ (w₅ ++ (w₆ ++ x)))))
  have e₂ := h₂.skipBlanks (by decide) (w₃ ++ (w₄ ++ (w₅ ++ (w₆ ++ x))))
  have e₃ := h₃.skipBlanks_of_head hct (not_isBlank_of_isDigit hc) (w₄ ++ (w₅ ++ (w₆ ++ x)))
  have e₄ : readLiteral? (ds ++ (w₄ ++ (w₅ ++ (w₆ ++ x)))) =
      some (Int64.ofNat (Nat.ofDigitChars 10 ds 0), w₄ ++ (w₅ ++ (w₆ ++ x))) := by
    obtain ⟨b, hb, rfl⟩ := h₄
    exact readLiteral?_digits hne hds hv
      (by rw [List.append_assoc]; exact startsWithDigit_blanks_append hb rfl _)
  have e₅ := h₄.skipBlanks (by decide) (w₅ ++ (w₆ ++ x))
  have e₆ := h₅.skipBlanks_of_head rfl (by decide) (w₆ ++ x)
  have e₇ := h₆.skipBlanks (by decide) x
  have hs : wl ++ w₁ ++ w₂ ++ w₃ ++ w₄ ++ w₅ ++ w₆ ++ x =
      wl ++ (w₁ ++ (w₂ ++ (w₃ ++ (w₄ ++ (w₅ ++ (w₆ ++ x)))))) := by
    simp
  unfold scan
  simp only [hs, e₁, dropWord_append, e₂, List.nil_append, e₃, e₄, e₅, e₆, e₇]
  generalize step L .conditional 0 x = y
  cases y <;> rfl

/-- The text before the formula that the scanner has read is a lead, and the count it read is
the count the lead writes. -/
theorem lead_of_front {s s₃ s₅ s₇ s₉ s₁₁ x : List Char} {v : Int64}
    (h₃ : dropWord "nplurals".toList (skipBlanks (afterLabel (skipBlanks s))) = some s₃)
    (h₅ : skipBlanks s₃ = '=' :: s₅) (h₇ : readLiteral? (skipBlanks s₅) = some (v, s₇))
    (h₉ : skipBlanks s₇ = ';' :: s₉) (h₁₁ : dropWord "plural".toList (skipBlanks s₉) = some s₁₁)
    (hx : skipBlanks s₁₁ = '=' :: x) :
    ∃ pre count, s = pre ++ x ∧ Lead pre count ∧ v = Int64.ofNat count := by
  obtain ⟨b₀, hb₀, hs⟩ := blanks_append_skipBlanks s
  obtain ⟨b₁, hb₁, hs₁⟩ := blanks_append_skipBlanks (afterLabel (skipBlanks s))
  rw [dropWord_eq_some h₃] at hs₁
  obtain ⟨b₂, hb₂, rfl⟩ := skipBlanks_eq_cons h₅
  obtain ⟨b₃, hb₃, hs₅⟩ := blanks_append_skipBlanks s₅
  obtain ⟨ds, e₇, hne, hds, hv, rfl⟩ := readLiteral?_eq_some h₇
  rw [e₇] at hs₅
  subst hs₅
  obtain ⟨b₄, hb₄, rfl⟩ := skipBlanks_eq_cons h₉
  obtain ⟨b₅, hb₅, hs₉⟩ := blanks_append_skipBlanks s₉
  rw [dropWord_eq_some h₁₁] at hs₉
  subst hs₉
  obtain ⟨b₆, hb₆, rfl⟩ := skipBlanks_eq_cons hx
  have hrest : ∀ wl w₁, IsToken "nplurals".toList w₁ → LabelPart wl →
      Lead (wl ++ w₁ ++ (b₂ ++ ['=']) ++ (b₃ ++ ds) ++ (b₄ ++ [';']) ++ (b₅ ++ "plural".toList) ++
        (b₆ ++ ['='])) (Nat.ofDigitChars 10 ds 0) :=
    fun wl w₁ h₁ hl => ⟨wl, w₁, _, _, ds, _, _, _, rfl, hl, h₁, ⟨b₂, hb₂, rfl⟩, ⟨b₃, hb₃, rfl⟩,
      ⟨hne, hds, rfl, hv⟩, ⟨b₄, hb₄, rfl⟩, ⟨b₅, hb₅, rfl⟩, ⟨b₆, hb₆, rfl⟩⟩
  rcases afterLabel_cases (skipBlanks s) with hl | ⟨lab, w, hl, hlab, hw⟩
  · rw [hl] at hs₁
    rw [hs₁] at hs
    refine ⟨_, _, ?_, hrest [] (b₀ ++ b₁ ++ "nplurals".toList) ⟨b₀ ++ b₁, hb₀.append hb₁, rfl⟩
      (.inl rfl), rfl⟩
    rw [hs]
    simp
  · rw [hs₁] at hl
    rw [hl] at hs
    refine ⟨_, _, ?_, hrest (b₀ ++ lab ++ w) (b₁ ++ "nplurals".toList) ⟨b₁, hb₁, rfl⟩
      (.inr ⟨lab, b₀ ++ lab, w, rfl, hlab, ⟨b₀, hb₀, rfl⟩, hw⟩), rfl⟩
    rw [hs]
    simp

theorem scan_fail_or_lead (L : Nat) (s : List Char) :
    (∃ r, scan L s = .fail r) ∨ ∃ pre x count, s = pre ++ x ∧ Lead pre count := by
  unfold scan
  dsimp only
  split
  next => exact .inl ⟨_, rfl⟩
  next s₃ h₃ =>
    split
    next s₅ h₅ =>
      split
      next => exact .inl ⟨_, rfl⟩
      next v s₇ h₇ =>
        split
        next s₉ h₉ =>
          split
          next => exact .inl ⟨_, rfl⟩
          next s₁₁ h₁₁ =>
            split
            next x hx =>
              obtain ⟨pre, count, hs, hlead, -⟩ := lead_of_front h₃ h₅ h₇ h₉ h₁₁ hx
              exact .inr ⟨pre, x, count, hs, hlead⟩
            next => exact .inl ⟨_, rfl⟩
        next => exact .inl ⟨_, rfl⟩
    next => exact .inl ⟨_, rfl⟩

theorem scan_cases (L : Nat) (s : List Char) :
    (∃ r, scan L s = .fail r) ∨ ∃ pre x count, s = pre ++ x ∧ Lead pre count ∧
      scan L s = ofFormula (Int64.ofNat count) (step L .conditional 0 x).outcome := by
  rcases scan_fail_or_lead L s with h | ⟨pre, x, count, rfl, hlead⟩
  · exact .inl h
  · exact .inr ⟨pre, x, count, rfl, hlead, scan_lead hlead L x⟩

/-! ### The end of a header -/

theorem Tail.afterFormula {b post : List Char} (hb : Blanks b) (h : Tail post) :
    afterFormula (b ++ post) = [] := by
  rcases h with hp | ⟨w, b', rfl, ⟨b₁, hb₁, rfl⟩, hb'⟩
  · have hs : skipBlanks (b ++ post) = [] := skipBlanks_of_blanks (hb.append hp)
    simp [Header.afterFormula, hs]
  · have htok : IsToken [';'] (b ++ b₁ ++ [';']) := ⟨b ++ b₁, hb.append hb₁, rfl⟩
    have hs : skipBlanks (b ++ (b₁ ++ ';' :: b')) = ';' :: b' := by
      simpa using htok.skipBlanks (by decide) b'
    simp only [List.append_assoc, List.singleton_append, Header.afterFormula, hs]
    exact skipBlanks_of_blanks hb'

theorem Tail.stops {b post : List Char} (hb : Blanks b) (h : Tail post) :
    Goal.conditional.Stops (b ++ post) := by
  rcases h with hp | ⟨w, b', rfl, ⟨b₁, hb₁, rfl⟩, hb'⟩
  · exact Goal.Stops.blanks (hb.append hp)
  · have hs : b ++ (b₁ ++ [';'] ++ b') = (b ++ b₁) ++ ';' :: b' := by simp
    rw [hs]
    exact Goal.Stops.token (hb.append hb₁) (by decide) rfl (fun t _ => by cases t <;> rfl)
      fun _ => by decide

theorem tail_of_afterFormula {r : List Char} (h : afterFormula r = []) : Tail r := by
  unfold afterFormula at h
  split at h
  next t ht =>
    obtain ⟨b, hb, rfl⟩ := skipBlanks_eq_cons ht
    exact .inr ⟨b ++ [';'], t, by simp, ⟨b, hb, rfl⟩, blanks_of_skipBlanks h⟩
  next => exact .inl (blanks_of_skipBlanks h)

theorem stops_of_afterFormula {r : List Char} (h : afterFormula r = []) :
    Goal.conditional.Stops r := by
  simpa using (tail_of_afterFormula h).stops (b := []) (by simp [Blanks])

/-! ### Shape and scan -/

/-- A header of the grammar's shape whose formula text reads on its own is scanned to its end,
with the count written and the tree of the formula. -/
theorem scan_of_shape {limits : Limits} {c : Nat} {h : List Char} {F : String} {e : Formula}
    (hs : Shape h c F.toList) (hF : read limits F = .ok e) :
    scan limits.maxDepth h = .ok (Int64.ofNat c) e [] := by
  obtain ⟨pre, post, rfl, hlead, htail⟩ := hs
  obtain ⟨r₁, hr₁, hb₁⟩ := read_eq_ok.1 hF
  obtain ⟨w, hw, dw⟩ := sound .conditional F.toList 0 e r₁ hr₁
  rw [hw] at hr₁
  have hblank := blanks_of_skipBlanks hb₁
  have ho := dw.outcome_before (Nat.zero_le _) (Goal.Stops.blanks hblank) (htail.stops hblank) hr₁
  rw [List.append_assoc, scan_lead hlead, hw, List.append_assoc, ho]
  simp [ofFormula, htail.afterFormula hblank]

/-- A header scanned to its end has the grammar's shape; its formula text is what the reader
consumed, which read on its own gives the same tree. -/
theorem shape_of_scan {limits : Limits} {h : List Char} {count : Int64} {e : Formula}
    (hs : scan limits.maxDepth h = .ok count e []) :
    ∃ (c : Nat) (F : String), Shape h c F.toList ∧ count = Int64.ofNat c ∧ c ≤ 2 ^ 63 - 1 ∧
      read limits F = .ok e := by
  rcases scan_cases limits.maxDepth h with ⟨r, hr⟩ | ⟨pre, x, c, rfl, hlead, hscan⟩
  · rw [hr] at hs
    cases hs
  rw [hscan] at hs
  cases ho : (step limits.maxDepth .conditional 0 x).outcome with
  | ok e' r₀ =>
    rw [ho] at hs
    simp only [ofFormula, Scan.ok.injEq] at hs
    obtain ⟨rfl, rfl, hr₀⟩ := hs
    obtain ⟨w, rfl, dw⟩ := sound .conditional x 0 e' r₀ ho
    have ho' := dw.outcome_before (Nat.zero_le _) (stops_of_afterFormula hr₀)
      (Goal.Stops.blanks (b := []) (by simp [Blanks])) ho
    refine ⟨c, String.ofList w, ⟨pre, r₀, by simp, hlead, tail_of_afterFormula hr₀⟩, rfl,
      hlead.count_le, read_eq_ok.2 ⟨[], ?_, rfl⟩⟩
    rw [String.toList_ofList]
    rwa [List.append_nil] at ho'
  | fail r =>
    rw [ho] at hs
    cases hs
  | tooDeep =>
    rw [ho] at hs
    cases hs

end Header

namespace Rule

open Formula Header

/-- A count written in digits builds a rule when it is positive, and is refused as zero
otherwise. -/
theorem make_ofNat {c : Nat} (hc : c ≤ 2 ^ 63 - 1) (e : Formula) :
    make (Int64.ofNat c) e = if h : 0 < c then .ok ⟨c, e, h, hc⟩ else .error (.invalidCount 0) := by
  have hv : (Int64.ofNat c).toInt = c := Int64.toInt_ofNat_of_lt (by omega)
  unfold make make?
  by_cases h : 0 < c
  · rw [dif_pos (by omega), dif_pos h]
    simp only [hv, Int.toNat_natCast]
  · obtain rfl : c = 0 := by omega
    rfl

theorem readHeader_of_scan {limits : Limits} {text : String} {count : Int64} {e : Formula}
    (h : scan limits.maxDepth text.toList = .ok count e []) :
    readHeader limits text = (make count e).mapError .rule := by
  unfold readHeader
  simp only [h]
  cases make count e <;> rfl

theorem readHeader_parse {limits : Limits} {text : String}
    (h : ∀ count e, scan limits.maxDepth text.toList ≠ .ok count e []) :
    ∃ err, readHeader limits text = .error (.parse err) := by
  unfold readHeader
  dsimp only
  split
  next => exact ⟨_, rfl⟩
  next => exact ⟨_, rfl⟩
  next count e hs => exact absurd hs (h count e)
  next => exact ⟨_, rfl⟩

theorem scan_of_readHeader {limits : Limits} {text : String}
    (h : ∀ err, readHeader limits text ≠ .error (.parse err)) :
    ∃ count e, scan limits.maxDepth text.toList = .ok count e [] := by
  by_cases hs : ∃ count e, scan limits.maxDepth text.toList = .ok count e []
  · exact hs
  · obtain ⟨err, herr⟩ := readHeader_parse fun count e hscan => hs ⟨count, e, hscan⟩
    exact absurd herr (h err)

/-- A header reads as a rule exactly when it has the grammar's shape with a positive count and a
formula text that reads on its own: the rule has the count written and the tree read. It is
refused as a rule exactly when it has that shape with a count of zero, and every other header is
a reading error. -/
theorem readHeader_iff_shape (limits : Limits) (text : String) :
    (∀ r : Rule, readHeader limits text = .ok r ↔
      ∃ F : String, Shape text.toList r.count F.toList ∧ read limits F = .ok r.root) ∧
    (readHeader limits text = .error (.rule (.invalidCount 0)) ↔
      ∃ (F : String) (e : Formula), Shape text.toList 0 F.toList ∧ read limits F = .ok e) ∧
    ((¬ ∃ (c : Nat) (F : String) (e : Formula), Shape text.toList c F.toList ∧
        read limits F = .ok e) →
      ∃ err, readHeader limits text = .error (.parse err)) := by
  refine ⟨fun r => ⟨fun h => ?_, fun ⟨F, hs, hF⟩ => ?_⟩, ⟨fun h => ?_, fun ⟨F, e, hs, hF⟩ => ?_⟩,
    fun hno => ?_⟩
  · obtain ⟨count, e, hscan⟩ := scan_of_readHeader fun err herr => by rw [h] at herr; cases herr
    obtain ⟨c, F, hs, rfl, hc, hF⟩ := shape_of_scan hscan
    rw [readHeader_of_scan hscan, make_ofNat hc] at h
    split at h
    next hpos =>
      simp only [Except.mapError, Except.ok.injEq] at h
      subst h
      exact ⟨F, hs, hF⟩
    next => cases h
  · rw [readHeader_of_scan (scan_of_shape hs hF), Formula.Rule.make_count]
    rfl
  · obtain ⟨count, e, hscan⟩ := scan_of_readHeader fun err herr => by rw [h] at herr; cases herr
    obtain ⟨c, F, hs, rfl, hc, hF⟩ := shape_of_scan hscan
    rw [readHeader_of_scan hscan, make_ofNat hc] at h
    split at h
    next => cases h
    next hpos =>
      obtain rfl : c = 0 := by omega
      exact ⟨F, e, hs, hF⟩
  · rw [readHeader_of_scan (scan_of_shape hs hF), make_ofNat (by omega)]
    rfl
  · refine readHeader_parse fun count e hscan => hno ?_
    obtain ⟨c, F, hs, -, -, hF⟩ := shape_of_scan hscan
    exact ⟨c, F, e, hs, hF⟩

end Rule

end PluralForms
