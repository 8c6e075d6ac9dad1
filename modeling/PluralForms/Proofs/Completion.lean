import Mathlib
import PluralForms.Proofs.Stopping

/-!
# Syntax errors stop where the text can still be completed

A syntax error is placed after the part of the text that was read, and that part is always the
start of a text that reads: of a formula for the formula reader, of a header for the header
reader, whatever count the header then declares (`malformed_prefix_completable`). So no syntax
error is placed past the first point where the text stops being completable. The place an error
names is the end of one prefix only, since a line and a byte column tell the prefixes of a text
apart (`Position.after_inj_of_prefix`).

A header stops in one of three places. Before its formula, what was read is completed by the
tokens still missing (`Opening`); inside the formula, it is a lead and a pending start of a
formula; after the formula, it is a whole header (`Complete`), and the character after it cannot
follow one.
-/

namespace PluralForms

namespace Text

theorem bytesOnLastLine_append_of_not_mem (u : List Char) {m : List Char} (h : '\n' ∉ m) :
    bytesOnLastLine (u ++ m) = bytesOnLastLine u + utf8Length m := by
  induction m generalizing u with
  | nil => simp [utf8Length]
  | cons c m ih =>
    have hc : c ≠ '\n' := fun hc => h (hc ▸ List.mem_cons_self)
    have hm : '\n' ∉ m := fun hm => h (List.mem_cons_of_mem c hm)
    have hstep : bytesOnLastLine (u ++ [c]) = bytesOnLastLine u + c.utf8Size := by
      simp [bytesOnLastLine, List.foldl_append, hc]
    rw [← List.singleton_append, ← List.append_assoc, ih (u ++ [c]) hm, hstep,
      utf8Length_append]
    simp [utf8Length]
    omega

/-- A line and a byte column name one prefix of a text: of two prefixes, the longer one has a
line feed more or a byte more on its last line, since every character takes a byte. -/
theorem Position.after_inj_of_prefix {u v x : List Char} (hu : u <+: x) (hv : v <+: x)
    (h : Position.after u = Position.after v) : u = v := by
  wlog huv : u <+: v generalizing u v
  · exact (this hv hu h.symm ((List.prefix_or_prefix_of_prefix hu hv).resolve_left huv)).symm
  obtain ⟨m, rfl⟩ := huv
  have hl := congrArg Position.line h
  have hc := congrArg Position.column h
  simp only [Position.after, List.count_append] at hl hc
  have hm : '\n' ∉ m := List.count_eq_zero.1 (by omega)
  rw [bytesOnLastLine_append_of_not_mem u hm, utf8Length_eq_sum] at hc
  cases m with
  | nil => simp
  | cons c m =>
    have := c.utf8Size_pos
    simp at hc
    omega

theorem Position.split_eq {x u v r r' : List Char} (hu : x = u ++ r) (hv : x = v ++ r')
    (h : Position.after u = Position.after v) : u = v ∧ r = r' := by
  obtain rfl := after_inj_of_prefix ⟨r, hu.symm⟩ ⟨r', hv.symm⟩ h
  exact ⟨rfl, List.append_cancel_left (hu.symm.trans hv)⟩

end Text

namespace Header

open Formula Text

/-! ### The text before the formula -/

theorem isCount_one : IsCount ['1'] 1 := ⟨by simp, by simp, by decide, by decide⟩

theorem lead_of_blanks {wl b₁ b₂ b₃ ds b₄ b₅ b₆ : List Char} {count : Nat} (hl : LabelPart wl)
    (h₁ : Blanks b₁) (h₂ : Blanks b₂) (h₃ : Blanks b₃) (hds : IsCount ds count)
    (h₄ : Blanks b₄) (h₅ : Blanks b₅) (h₆ : Blanks b₆) :
    Lead (wl ++ b₁ ++ "nplurals".toList ++ b₂ ++ ['='] ++ b₃ ++ ds ++ b₄ ++ [';'] ++ b₅ ++
      "plural".toList ++ b₆ ++ ['=']) count :=
  ⟨wl, b₁ ++ "nplurals".toList, b₂ ++ ['='], b₃ ++ ds, ds, b₄ ++ [';'], b₅ ++ "plural".toList,
    b₆ ++ ['='], by simp only [List.append_assoc], hl, ⟨b₁, h₁, rfl⟩, ⟨b₂, h₂, rfl⟩,
    ⟨b₃, h₃, rfl⟩, hds, ⟨b₄, h₄, rfl⟩, ⟨b₅, h₅, rfl⟩, ⟨b₆, h₆, rfl⟩⟩

/-- `u` starts the text before a formula, short of its last `=`: the tokens still missing
complete it. -/
def Opening (u : List Char) : Prop := ∃ y count, Lead (u ++ y) count ∧ '=' ∈ y

theorem labelPart_front (s : List Char) :
    ∃ wl b, LabelPart wl ∧ Blanks b ∧ s = wl ++ b ++ skipBlanks (afterLabel (skipBlanks s)) := by
  obtain ⟨b₀, hb₀, hs⟩ := blanks_append_skipBlanks s
  obtain ⟨b₁, hb₁, hs₁⟩ := blanks_append_skipBlanks (afterLabel (skipBlanks s))
  rcases afterLabel_cases (skipBlanks s) with hl | ⟨lab, w, hl, hlab, hw⟩
  · refine ⟨[], b₀ ++ b₁, .inl rfl, hb₀.append hb₁, ?_⟩
    rw [List.nil_append, List.append_assoc, ← hs₁, hl]
    exact hs
  · refine ⟨b₀ ++ lab ++ w, b₁, .inr ⟨lab, b₀ ++ lab, w, rfl, hlab, ⟨b₀, hb₀, rfl⟩, hw⟩, hb₁, ?_⟩
    rw [List.append_assoc _ b₁, ← hs₁]
    simp only [List.append_assoc] at hl ⊢
    rw [← hl]
    exact hs

theorem eq_append_blanks {s u x : List Char} (h : s = u ++ x) :
    ∃ b, Blanks b ∧ s = u ++ b ++ skipBlanks x := by
  obtain ⟨b, hb, hx⟩ := blanks_append_skipBlanks x
  exact ⟨b, hb, by rw [List.append_assoc, ← hx, h]⟩

/-- Where the scanner fails: before the formula, after an opening; or in the formula, after
a lead. -/
theorem scan_fail_cases {L : Nat} {s r : List Char} (h : scan L s = .fail r) :
    (∃ u, s = u ++ r ∧ Opening u) ∨
      ∃ pre x count, s = pre ++ x ∧ Lead pre count ∧ (step L .conditional 0 x).outcome = .fail r := by
  obtain ⟨wl, b₁, hl, hb₁, hs₂⟩ := labelPart_front s
  unfold scan at h
  dsimp only at h
  split at h
  next =>
    cases h
    refine .inl ⟨_, hs₂, "nplurals".toList ++ ['=', '1', ';'] ++ "plural".toList ++ ['='], 1,
      ?_, by simp⟩
    simpa using lead_of_blanks hl hb₁ .nil .nil isCount_one .nil .nil .nil
  next s₃ h₃ =>
    rw [dropWord_eq_some h₃, ← List.append_assoc] at hs₂
    obtain ⟨b₂, hb₂, hs₄⟩ := eq_append_blanks hs₂
    split at h
    next s₅ h₅ =>
      rw [h₅, List.append_cons _ '=' s₅] at hs₄
      obtain ⟨b₃, hb₃, hs₆⟩ := eq_append_blanks hs₄
      split at h
      next =>
        cases h
        refine .inl ⟨_, hs₆, ['1', ';'] ++ "plural".toList ++ ['='], 1, ?_, by simp⟩
        simpa using lead_of_blanks hl hb₁ hb₂ hb₃ isCount_one .nil .nil .nil
      next v s₇ h₇ =>
        obtain ⟨ds, hds, hne, hdig, hv, -⟩ := readLiteral?_eq_some h₇
        have hcount : IsCount ds (Nat.ofDigitChars 10 ds 0) := ⟨hne, hdig, rfl, hv⟩
        rw [hds, ← List.append_assoc] at hs₆
        obtain ⟨b₄, hb₄, hs₈⟩ := eq_append_blanks hs₆
        split at h
        next s₉ h₉ =>
          rw [h₉, List.append_cons _ ';' s₉] at hs₈
          obtain ⟨b₅, hb₅, hs₁₀⟩ := eq_append_blanks hs₈
          split at h
          next =>
            cases h
            refine .inl ⟨_, hs₁₀, "plural".toList ++ ['='], Nat.ofDigitChars 10 ds 0, ?_, by simp⟩
            simpa using lead_of_blanks hl hb₁ hb₂ hb₃ hcount hb₄ hb₅ .nil
          next s₁₁ h₁₁ =>
            rw [dropWord_eq_some h₁₁, ← List.append_assoc] at hs₁₀
            obtain ⟨b₆, hb₆, hs₁₂⟩ := eq_append_blanks hs₁₀
            split at h
            next x hx =>
              rw [hx, List.append_cons _ '=' x] at hs₁₂
              refine .inr ⟨_, x, _, hs₁₂, lead_of_blanks hl hb₁ hb₂ hb₃ hcount hb₄ hb₅ hb₆, ?_⟩
              split at h
              next => cases h
              next _ _ hr =>
                cases h
                rw [hr]
                rfl
              next => cases h
            next =>
              cases h
              refine .inl ⟨_, hs₁₂, ['='], Nat.ofDigitChars 10 ds 0, ?_, by simp⟩
              simpa using lead_of_blanks hl hb₁ hb₂ hb₃ hcount hb₄ hb₅ hb₆
        next =>
          cases h
          refine .inl ⟨_, hs₈, [';'] ++ "plural".toList ++ ['='], Nat.ofDigitChars 10 ds 0, ?_,
            by simp⟩
          simpa using lead_of_blanks hl hb₁ hb₂ hb₃ hcount hb₄ .nil .nil
    next =>
      cases h
      refine .inl ⟨_, hs₄, ['=', '1', ';'] ++ "plural".toList ++ ['='], 1, ?_, by simp⟩
      simpa using lead_of_blanks hl hb₁ hb₂ .nil isCount_one .nil .nil .nil

/-! ### The text after the formula -/

theorem afterFormula_split (r : List Char) : ∃ v, r = v ++ afterFormula r ∧ Tail v := by
  obtain ⟨b, hb, hr⟩ := blanks_append_skipBlanks r
  unfold afterFormula
  split
  next t ht =>
    obtain ⟨b', hb', ht'⟩ := blanks_append_skipBlanks t
    rw [ht] at hr
    refine ⟨b ++ [';'] ++ b', ?_, .inr ⟨b ++ [';'], b', rfl, ⟨b, hb, rfl⟩, hb'⟩⟩
    rw [List.append_assoc _ b', ← ht', hr]
    simp
  next => exact ⟨b, hr, .inl hb⟩

/-! ### Where a header stops -/

/-- Where a header can stop inside: before its formula, after an opening, or in the formula,
after a lead and a pending start of a formula. -/
def Unfinished (u : List Char) : Prop :=
  Opening u ∨ ∃ pre w count, u = pre ++ w ∧ Lead pre count ∧ Begins .formula w ∧ Pending w

/-- A whole header: the grammar's shape around a phrase. -/
def Complete (u : List Char) : Prop :=
  ∃ count F e, Shape u count F ∧ Derives .formula F e

/-- Where reading a header stops with a syntax error: inside, with the detail the rest of the
text gives; or after a whole header, before a character that cannot follow it, which the detail
names. -/
theorem readHeader_stops {limits : Limits} {text : String} {line column : Nat} {detail : Detail}
    (h : Rule.readHeader limits text = .error (.parse (.malformed line column detail))) :
    ∃ consumed rest, text.toList = consumed ++ rest ∧ Position.after consumed = ⟨line, column⟩ ∧
      (Unfinished consumed ∧ detail = failureDetail rest ∨
        Complete consumed ∧ ∃ c r, rest = c :: r ∧ detail = .unexpected c) := by
  unfold Rule.readHeader at h
  dsimp only at h
  split at h
  next => cases h
  next r hr =>
    have h' := HeaderError.parse.inj (Except.error.inj h)
    obtain ⟨u, hs, hu⟩ : ∃ u, text.toList = u ++ r ∧ Unfinished u := by
      rcases scan_fail_cases hr with ⟨u, hs, hu⟩ | ⟨pre, x, count, hs, hlead, hx⟩
      · exact ⟨u, hs, .inl hu⟩
      · obtain ⟨w, hx', hb, hp⟩ := stalls .conditional x 0 r hx
        exact ⟨pre ++ w, by rw [hs, hx', List.append_assoc], .inr ⟨pre, w, count, rfl, hlead, hb, hp⟩⟩
    rw [hs] at h'
    obtain ⟨hpos, hd⟩ := stoppedAt_append h'
    exact ⟨u, r, hs, hpos, .inl ⟨hu, hd⟩⟩
  next =>
    split at h
    next => cases h
    next => cases h
  next count e c rest hs =>
    rcases scan_cases limits.maxDepth text.toList with ⟨r, hr⟩ | ⟨pre, x, k, htext, hlead, hscan⟩
    · rw [hr] at hs
      cases hs
    rw [hscan] at hs
    cases ho : (step limits.maxDepth .conditional 0 x).outcome with
    | ok e' r₀ =>
      rw [ho] at hs
      simp only [ofFormula, Scan.ok.injEq] at hs
      obtain ⟨-, -, hr₀⟩ := hs
      obtain ⟨w, rfl, dw⟩ := sound .conditional x 0 e' r₀ ho
      obtain ⟨v, hv, htail⟩ := afterFormula_split r₀
      rw [hr₀] at hv
      have htext' : text.toList = pre ++ w ++ v ++ c :: rest := by
        rw [htext, hv]
        simp
      have h' := HeaderError.parse.inj (Except.error.inj h)
      rw [htext'] at h'
      obtain ⟨hpos, hd⟩ := stoppedAt_append h'
      exact ⟨pre ++ w ++ v, c :: rest, htext', hpos,
        .inr ⟨⟨k, w, e', ⟨pre, v, rfl, hlead, htail⟩, dw⟩, c, rest, rfl, hd⟩⟩
    | fail r =>
      rw [ho] at hs
      cases hs
    | tooDeep =>
      rw [ho] at hs
      cases hs

/-- A whole header reads under every limit at least its length with no syntax error: at most
the rule its count and formula build is refused. -/
theorem Complete.readHeader {u : List Char} (h : Complete u) {limits : Limits}
    (hl : u.length ≤ limits.maxDepth) (err : ParseError) :
    Rule.readHeader limits (String.ofList u) ≠ .error (.parse err) := by
  obtain ⟨count, F, e, hs, d⟩ := h
  have hF : F.length ≤ u.length := by
    obtain ⟨pre, post, rfl, -, -⟩ := hs
    simp only [List.length_append]
    omega
  have hread : read limits (String.ofList F) = .ok e :=
    Sentence.read_ok (by rw [String.toList_ofList]; exact ⟨F, [], by simp, Blanks.nil, d⟩)
      (by rw [String.length_ofList]; omega)
  have hscan := scan_of_shape (F := String.ofList F) (by rwa [String.toList_ofList]) hread
  rw [Rule.readHeader_of_scan (by rwa [String.toList_ofList])]
  cases Rule.make (Int64.ofNat count) e <;> simp [Except.mapError]

/-- Every place a header stops inside is completed to a whole header: by the tokens still
missing and the formula `n`, or by the rest of a phrase. -/
theorem Unfinished.completes {u : List Char} (h : Unfinished u) : ∃ t, u <+: t ∧ Complete t := by
  rcases h with ⟨y, count, hlead, -⟩ | ⟨pre, w, count, rfl, hlead, ⟨x, e, d⟩, -⟩
  · exact ⟨u ++ y ++ ['n'], ⟨y ++ ['n'], by simp⟩, count, ['n'], .var,
      ⟨u ++ y, [], by simp, hlead, .inl Blanks.nil⟩, Derives.var_formula⟩
  · exact ⟨pre ++ (w ++ x), ⟨x, by simp⟩, count, w ++ x, e,
      ⟨pre, [], by simp, hlead, .inl Blanks.nil⟩, d⟩

end Header

namespace Formula

open Text

/-- A syntax error is never placed past the first point where the text stops being completable:
the part read before the place it names (the one prefix that ends there) starts a formula that
reads, when the formula reader reports it, and a header that reads with no syntax error, when the
header reader does; both under every limit that the completed text cannot reach. -/
theorem malformed_prefix_completable (limits : Limits) (text : String) (line column : Nat)
    (detail : Detail) (consumed rest : List Char) (hs : text.toList = consumed ++ rest)
    (hp : Position.after consumed = ⟨line, column⟩) :
    (read limits text = .error (.malformed line column detail) →
      ∃ t : String, consumed <+: t.toList ∧ ∃ e, ∀ limits' : Limits,
        t.length ≤ limits'.maxDepth → read limits' t = .ok e) ∧
    (Rule.readHeader limits text = .error (.parse (.malformed line column detail)) →
      ∃ t : String, consumed <+: t.toList ∧ ∀ limits' : Limits,
        t.length ≤ limits'.maxDepth → ∀ err, Rule.readHeader limits' t ≠ .error (.parse err)) := by
  constructor
  · intro h
    obtain ⟨c, r, hs', hp', hc⟩ := read_stops h
    obtain ⟨rfl, -⟩ := Position.split_eq hs hs' (hp.trans hp'.symm)
    rcases hc with ⟨hb, -, -⟩ | ⟨⟨e, he⟩, -⟩
    · exact hb.completes
    · exact he.completes
  · intro h
    obtain ⟨c, r, hs', hp', hc⟩ := Header.readHeader_stops h
    obtain ⟨rfl, -⟩ := Position.split_eq hs hs' (hp.trans hp'.symm)
    obtain ⟨t, hut, ht⟩ : ∃ t, consumed <+: t ∧ Header.Complete t := by
      rcases hc with ⟨hu, -⟩ | ⟨hcomp, -⟩
      · exact hu.completes
      · exact ⟨consumed, List.prefix_refl _, hcomp⟩
    refine ⟨String.ofList t, by rwa [String.toList_ofList], fun limits' hl err => ?_⟩
    exact ht.readHeader (by rwa [String.length_ofList] at hl) err

/-- `n > = 1` stops after `n > `, at its fifth column, before the `=`, and `n > ` is completed
by `n`. -/
theorem malformed_prefix_completable_gap :
    "n > = 1".toList = "n > ".toList ++ "= 1".toList ∧ Position.after "n > ".toList = ⟨1, 5⟩ ∧
    read {} "n > = 1" = .error (.malformed 1 5 (.unexpected '=')) ∧
    (read {} "n > = 1" = .error (.malformed 1 5 (.unexpected '=')) →
      ∃ t : String, "n > ".toList <+: t.toList ∧ ∃ e, ∀ limits' : Limits,
        t.length ≤ limits'.maxDepth → read limits' t = .ok e) ∧
    (Rule.readHeader {} "n > = 1" = .error (.parse (.malformed 1 5 (.unexpected '='))) →
      ∃ t : String, "n > ".toList <+: t.toList ∧ ∀ limits' : Limits,
        t.length ≤ limits'.maxDepth → ∀ err, Rule.readHeader limits' t ≠ .error (.parse err)) :=
  have hs : "n > = 1".toList = "n > ".toList ++ "= 1".toList := by decide
  have hp : Position.after "n > ".toList = ⟨1, 5⟩ := by decide
  ⟨hs, hp, by decide +kernel,
    malformed_prefix_completable {} "n > = 1" 1 5 (.unexpected '=') "n > ".toList "= 1".toList hs hp⟩

end Formula

end PluralForms
