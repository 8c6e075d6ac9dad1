import Mathlib
import PluralForms.Proofs.Completion

/-!
# What a syntax error says

A syntax error names the end of the text, a literal too large for a word, or the character found.
Which one is chosen from the text left over and from whether a whole formula or header had been
read, not from what the grammar expected next (`syntax_error_detail`). Reading that fails inside
reports a literal too large whenever the rest starts with a run of digits whose value does not fit
a signed word, and the end of the text when nothing is left; reading that stops after a whole
formula or header names the character, even where it is the first digit of such a run.

So a literal too large is reported also where no operand could stand: in
`(n 99999999999999999999` a `)` is missing before the digits, and a `0` in their place is refused
at the same column (`literal_too_large_after_missing_paren`).
-/

namespace PluralForms

namespace Formula

open Text

/-! ### Runs of digits too large for a word -/

/-- The text starts with a run of decimal digits, the whole run, whose value does not fit a
signed word. -/
def StartsWithLargeLiteral (rest : List Char) : Prop :=
  ∃ ds post, rest = ds ++ post ∧ ds ≠ [] ∧ (∀ c ∈ ds, c.isDigit) ∧ startsWithDigit post = false ∧
    2 ^ 63 ≤ Nat.ofDigitChars 10 ds 0

theorem takeWhile_digits {ds post : List Char} (hds : ∀ c ∈ ds, c.isDigit)
    (hpost : startsWithDigit post = false) : (ds ++ post).takeWhile Char.isDigit = ds := by
  rw [List.takeWhile_append_of_pos hds]
  cases post with
  | nil => simp
  | cons c post =>
    simp only [startsWithDigit] at hpost
    simp [hpost]

theorem leadingLiteralTooLarge_iff {rest : List Char} :
    leadingLiteralTooLarge rest = true ↔ StartsWithLargeLiteral rest := by
  simp only [leadingLiteralTooLarge, Bool.and_eq_true, Bool.not_eq_true', List.isEmpty_eq_false_iff,
    decide_eq_true_eq, literalMax, digitsValue_eq]
  constructor
  · rintro ⟨hne, hv⟩
    refine ⟨rest.takeWhile Char.isDigit, rest.dropWhile Char.isDigit,
      List.takeWhile_append_dropWhile.symm, hne, fun c hc => List.mem_takeWhile_imp hc, ?_, by omega⟩
    have hhead := List.head?_dropWhile_not Char.isDigit rest
    cases hd : rest.dropWhile Char.isDigit with
    | nil => rfl
    | cons c t =>
      rw [hd] at hhead
      simpa [startsWithDigit] using hhead
  · rintro ⟨ds, post, rfl, hne, hds, hpost, hv⟩
    rw [takeWhile_digits hds hpost]
    exact ⟨hne, by omega⟩

theorem failureDetail_eq_literalTooLarge {rest : List Char} :
    failureDetail rest = .literalTooLarge ↔ StartsWithLargeLiteral rest := by
  rw [← leadingLiteralTooLarge_iff]
  cases rest with
  | nil => simp [failureDetail, leadingLiteralTooLarge]
  | cons c r =>
    unfold failureDetail
    split_ifs with h <;> simp [h]

theorem failureDetail_eq_endOfInput {rest : List Char} :
    failureDetail rest = .endOfInput ↔ rest = [] := by
  cases rest with
  | nil => simp [failureDetail]
  | cons c r =>
    unfold failureDetail
    split_ifs <;> simp

theorem head?_of_failureDetail {rest : List Char} {c : Char}
    (h : failureDetail rest = .unexpected c) : rest.head? = some c := by
  cases rest with
  | nil => cases h
  | cons c' r =>
    unfold failureDetail at h
    split_ifs at h
    cases h
    rfl

/-- The detail of a stop: inside a phrase, that is short of a whole one, the rest of the text
gives it; after a whole phrase it names the character found. -/
theorem detail_of_stop {whole : Prop} {detail : Detail} {rest : List Char}
    (h : ¬ whole ∧ detail = failureDetail rest ∨
      whole ∧ ∃ c r, rest = c :: r ∧ detail = .unexpected c) :
    (detail = .literalTooLarge ↔ StartsWithLargeLiteral rest ∧ ¬ whole) ∧
      (detail = .endOfInput ↔ rest = []) ∧ ∀ c, detail = .unexpected c → rest.head? = some c := by
  rcases h with ⟨hw, rfl⟩ | ⟨hw, c, r, rfl, rfl⟩
  · refine ⟨?_, failureDetail_eq_endOfInput, fun _ => head?_of_failureDetail⟩
    rw [failureDetail_eq_literalTooLarge]
    exact ⟨fun h => ⟨h, hw⟩, And.left⟩
  · refine ⟨by simp [hw], by simp, fun c' h => ?_⟩
    cases h
    rfl

/-! ### Stops inside a header are short of a whole header -/

theorem IsToken.count_eq {tok w : List Char} (h : IsToken tok w) :
    w.count '=' = tok.count '=' := by
  obtain ⟨b, hb, rfl⟩ := h
  rw [List.count_append, hb.count_eq_zero (by decide), zero_add]

end Formula

namespace Header

open Formula Text

theorem IsLabel.count_eq_zero {lab : List Char} (h : IsLabel lab) : lab.count '=' = 0 :=
  List.count_eq_zero.2 fun hm => by
    have hl : '='.toLower ∈ lab.map Char.toLower := List.mem_map_of_mem hm
    rw [h] at hl
    exact absurd hl (by decide)

theorem LabelPart.count_eq_zero {wl : List Char} (h : LabelPart wl) : wl.count '=' = 0 := by
  rcases h with rfl | ⟨lab, w₁, w₂, rfl, hlab, h₁, h₂⟩
  · rfl
  · rw [List.count_append, h₁.count_eq, h₂.count_eq, hlab.count_eq_zero]
    rfl

/-- The text before a formula holds two `=`: the one after `nplurals` and the one after
`plural`. -/
theorem Lead.count_eq {pre : List Char} {count : Nat} (h : Lead pre count) :
    pre.count '=' = 2 := by
  obtain ⟨wl, w₁, w₂, w₃, ds, w₄, w₅, w₆, rfl, hl, h₁, h₂, h₃, ⟨-, hds, -⟩, h₄, h₅, h₆⟩ := h
  have hdigits : ds.count '=' = 0 :=
    List.count_eq_zero.2 fun hm => absurd (hds _ hm) (by decide)
  simp only [List.count_append, hl.count_eq_zero, h₁.count_eq, h₂.count_eq, h₃.count_eq, hdigits,
    h₄.count_eq, h₅.count_eq, h₆.count_eq]
  decide

theorem Tail.not_pending {w r : List Char} {e : Formula} (d : Derives .formula w e)
    (ht : Tail r) : ¬ Pending (w ++ r) := by
  rcases ht with hb | ⟨_, b', rfl, ⟨b, hb, rfl⟩, hb'⟩
  · exact Sentence.not_pending ⟨w, r, rfl, hb, d⟩
  · obtain ⟨ho, ha, -⟩ := d.closed
    have hsemi : lastSolid (b ++ [';'] ++ b') = some ';' := by
      rw [lastSolid_append, hb'.lastSolid, Option.none_or]
      exact lastSolid_snoc (by decide) _
    refine Closed.not_pending ⟨by simp [ho, hb, hb'], by simp [ha, hb, hb'], ';', ?_, by decide⟩
    rw [lastSolid_append, hsemi, Option.some_or]

/-- No place a header stops inside is the end of a whole header. Before the formula fewer than
two `=` have been read; inside it, the scanner would read the formula, whose text is then no
pending one. -/
theorem Unfinished.not_complete {u : List Char} (h : Unfinished u) : ¬ Complete u := by
  rintro ⟨count', F, e, ⟨pre', post, rfl, hlead', htail⟩, d⟩
  rcases h with ⟨y, count, hlead, hy⟩ | ⟨pre, w, count, hu, hlead, -, hp⟩
  · have h₁ := hlead.count_eq
    have h₂ := hlead'.count_eq
    have hy' := List.count_pos_iff.2 hy
    simp only [List.count_append] at h₁ ⊢
    omega
  · have hread : read ⟨(pre' ++ F ++ post).length⟩ (String.ofList F) = .ok e :=
      Sentence.read_ok (by rw [String.toList_ofList]; exact ⟨F, [], by simp, Blanks.nil, d⟩)
        (by simp; omega)
    generalize (pre' ++ F ++ post).length = L at hread
    have hscan : scan L (pre' ++ F ++ post) = .ok (Int64.ofNat count') e [] :=
      scan_of_shape (F := String.ofList F) ⟨pre', post, by rw [String.toList_ofList], hlead', htail⟩
        hread
    rw [hu, scan_lead hlead] at hscan
    cases ho : (step L .conditional 0 w).outcome with
    | ok e' r =>
      rw [ho] at hscan
      simp only [ofFormula, Scan.ok.injEq] at hscan
      obtain ⟨w', rfl, d'⟩ := sound .conditional w 0 e' r ho
      exact Tail.not_pending d' (tail_of_afterFormula hscan.2.2) hp
    | fail r =>
      rw [ho] at hscan
      cases hscan
    | tooDeep =>
      rw [ho] at hscan
      cases hscan

end Header

namespace Formula

open Text

/-! ### The detail of every syntax error -/

/-- What a syntax error says about the text left after its place (the one prefix that ends
there): a literal too large exactly when that rest starts with a run of digits whose value does
not fit a signed word and reading had not read a whole formula, or a whole header; the end of the
text exactly when nothing is left; otherwise the character that starts the rest. Nothing asks
whether an operand or the count could stand there. -/
theorem syntax_error_detail (limits : Limits) (text : String) (line column : Nat)
    (detail : Detail) (consumed rest : List Char) (hs : text.toList = consumed ++ rest)
    (hp : Position.after consumed = ⟨line, column⟩) :
    (read limits text = .error (.malformed line column detail) →
      (detail = .literalTooLarge ↔ StartsWithLargeLiteral rest ∧ ¬ ∃ e, Sentence consumed e) ∧
      (detail = .endOfInput ↔ rest = []) ∧ ∀ c, detail = .unexpected c → rest.head? = some c) ∧
    (Rule.readHeader limits text = .error (.parse (.malformed line column detail)) →
      (detail = .literalTooLarge ↔ StartsWithLargeLiteral rest ∧ ¬ Header.Complete consumed) ∧
      (detail = .endOfInput ↔ rest = []) ∧ ∀ c, detail = .unexpected c → rest.head? = some c) := by
  constructor
  · intro h
    obtain ⟨c, r, hs', hp', hc⟩ := read_stops h
    obtain ⟨rfl, rfl⟩ := Position.split_eq hs hs' (hp.trans hp'.symm)
    refine detail_of_stop ?_
    rcases hc with ⟨-, hpend, hd⟩ | hc
    · exact .inl ⟨fun ⟨_, he⟩ => he.not_pending hpend, hd⟩
    · exact .inr hc
  · intro h
    obtain ⟨c, r, hs', hp', hc⟩ := Header.readHeader_stops h
    obtain ⟨rfl, rfl⟩ := Position.split_eq hs hs' (hp.trans hp'.symm)
    refine detail_of_stop ?_
    rcases hc with ⟨hu, hd⟩ | hc
    · exact .inl ⟨hu.not_complete, hd⟩
    · exact .inr hc

/-- `(n 99999999999999999999` stops after `(n `, where a `)` is missing, with a literal too large;
the text is no whole formula there and the rest is a run of twenty nines. -/
theorem syntax_error_detail_paren :
    "(n 99999999999999999999".toList = "(n ".toList ++ "99999999999999999999".toList ∧
    Position.after "(n ".toList = ⟨1, 4⟩ ∧
    read {} "(n 99999999999999999999" = .error (.malformed 1 4 .literalTooLarge) ∧
    (read {} "(n 99999999999999999999" = .error (.malformed 1 4 .literalTooLarge) →
      (Detail.literalTooLarge = .literalTooLarge ↔
        StartsWithLargeLiteral "99999999999999999999".toList ∧ ¬ ∃ e, Sentence "(n ".toList e) ∧
      (Detail.literalTooLarge = .endOfInput ↔ "99999999999999999999".toList = []) ∧
      ∀ c, Detail.literalTooLarge = .unexpected c →
        "99999999999999999999".toList.head? = some c) ∧
    (Rule.readHeader {} "(n 99999999999999999999" =
        .error (.parse (.malformed 1 4 .literalTooLarge)) →
      (Detail.literalTooLarge = .literalTooLarge ↔
        StartsWithLargeLiteral "99999999999999999999".toList ∧ ¬ Header.Complete "(n ".toList) ∧
      (Detail.literalTooLarge = .endOfInput ↔ "99999999999999999999".toList = []) ∧
      ∀ c, Detail.literalTooLarge = .unexpected c →
        "99999999999999999999".toList.head? = some c) :=
  have hs : "(n 99999999999999999999".toList =
      "(n ".toList ++ "99999999999999999999".toList := by decide
  have hp : Position.after "(n ".toList = ⟨1, 4⟩ := by decide
  ⟨hs, hp, by decide +kernel, syntax_error_detail {} "(n 99999999999999999999" 1 4 .literalTooLarge
    "(n ".toList "99999999999999999999".toList hs hp⟩

/-- The digits stand where a `)` is missing: a `0` in their place is refused at the same column,
yet the long run is reported as a literal too large. -/
theorem literal_too_large_after_missing_paren :
    read {} "(n 99999999999999999999" = .error (.malformed 1 4 .literalTooLarge) ∧
      read {} "(n 0" = .error (.malformed 1 4 (.unexpected '0')) := by
  decide +kernel

end Formula

end PluralForms
