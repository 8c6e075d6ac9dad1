import Mathlib
import PluralForms.Program.Run
import PluralForms.Proofs.Header

/-!
# Where reports point, and which indices the commands show

Two facts about what the commands print.

A syntax error carries the line and byte column where reading stopped; the report turns them back
into a byte offset by summing the lengths of the lines before, one byte for each break. It cuts
those lines with a CR LF pair as one break, so its span starts early by one byte for every such
pair before the error (`parseReport_offset`); with line feeds alone, or bare carriage returns, it
starts at the first byte not read. A line that a line feed ends is measured without the carriage
return before the feed, and the last line is measured whole, a final carriage return with it
(`lineLengths_line`, `lineLengths_last`).

A rule is evaluated two ways: `eval --checked` takes the formula's full value and requires it to
name a form, the other commands keep its low 32 bits and mark an index that names no form. The two
agree wherever the value fits 32 bits (`formIndex_eq_ok_iff_index`), and not beyond: at `2 ^ 32`
the formula `n` gives the unchecked index 0.
-/

namespace PluralForms

/-! ### Where a syntax report points -/

namespace Text

/-- The number of carriage returns followed at once by a line feed. -/
def crlfCount : List Char → Nat
  | [] => 0
  | c :: rest => (if c = '\r' ∧ rest.head? = some '\n' then 1 else 0) + crlfCount rest

theorem crlfCount_of_not_mem {s : List Char} (h : '\n' ∉ s) : crlfCount s = 0 := by
  induction s with
  | nil => rfl
  | cons c rest ih =>
    have hr : '\n' ∉ rest := fun hm => h (List.mem_cons_of_mem c hm)
    have hh : rest.head? ≠ some '\n' := fun hm => hr (List.mem_of_head? hm)
    simp [crlfCount, ih hr, hh]

theorem crlfCount_line {l : List Char} (hl : '\n' ∉ l) (t : List Char) :
    crlfCount (l ++ '\n' :: t) = crlfCount t + if l.getLast? = some '\r' then 1 else 0 := by
  induction l with
  | nil => simp [crlfCount]
  | cons c l ih =>
    have hl' : '\n' ∉ l := fun hm => hl (List.mem_cons_of_mem c hm)
    rw [List.cons_append, crlfCount, ih hl']
    cases l with
    | nil => simp; omega
    | cons d l =>
      have hd : d ≠ '\n' := fun h => hl' (h ▸ List.mem_cons_self)
      simp [hd, List.getLast?_cons_cons]

theorem utf8Length_eq_sum (s : List Char) : utf8Length s = (s.map Char.utf8Size).sum := by
  suffices ∀ a, s.foldl (fun acc c => acc + c.utf8Size) a = a + (s.map Char.utf8Size).sum from
    (this 0).trans (Nat.zero_add _)
  induction s with
  | nil => simp
  | cons c s ih => intro a; simp [ih]; omega

theorem utf8Length_append (s t : List Char) :
    utf8Length (s ++ t) = utf8Length s + utf8Length t := by
  simp [utf8Length_eq_sum]

theorem bytesOnLastLine_of_not_mem {s : List Char} (h : '\n' ∉ s) :
    bytesOnLastLine s = utf8Length s := by
  suffices ∀ a, s.foldl (fun acc c => if c = '\n' then 0 else acc + c.utf8Size) a =
      s.foldl (fun acc c => acc + c.utf8Size) a from this 0
  induction s with
  | nil => simp
  | cons c s ih =>
    intro a
    have hc : c ≠ '\n' := fun hc => h (hc ▸ List.mem_cons_self)
    simp only [List.foldl_cons, if_neg hc]
    exact ih (fun hm => h (List.mem_cons_of_mem c hm)) _

theorem bytesOnLastLine_line (l t : List Char) :
    bytesOnLastLine (l ++ '\n' :: t) = bytesOnLastLine t := by
  simp [bytesOnLastLine, List.foldl_append]

theorem consumedBefore_append (c r : List Char) : consumedBefore (c ++ r) r = c := by
  simp [consumedBefore]

end Text

namespace Program

open Text

/-- A line's byte length without the carriage return of a CR LF break, plus that return, is its
whole byte length. -/
theorem utf8Length_dropCR (l : List Char) :
    utf8Length (if l.getLast? = some '\r' then l.dropLast else l) +
      (if l.getLast? = some '\r' then 1 else 0) = utf8Length l := by
  split
  next h =>
    conv => rhs; rw [← List.dropLast_append_getLast? _ h]
    rw [utf8Length_append]
    rfl
  next => rfl

theorem lineLengths_line {l : List Char} (hl : '\n' ∉ l) (t : List Char) :
    lineLengths (l ++ '\n' :: t) =
      utf8Length (if l.getLast? = some '\r' then l.dropLast else l) :: lineLengths t := by
  unfold lineLengths
  dsimp only
  obtain ⟨p, ps, hps⟩ := List.exists_cons_of_ne_nil (List.splitOn_ne_nil '\n' t)
  rw [List.splitOn_append_cons_self_of_not_mem hl, hps, List.dropLast_cons_cons,
    List.getLast?_cons_cons]
  simp

theorem lineLengths_last {l : List Char} (hl : '\n' ∉ l) (hne : l ≠ []) :
    lineLengths l = [utf8Length l] := by
  unfold lineLengths
  dsimp only
  rw [List.splitOn_eq_singleton hl]
  simp [hne]

theorem foldl_add_succ (l : List Nat) (a : Nat) :
    l.foldl (fun acc n => acc + n + 1) a = a + l.foldl (fun acc n => acc + n + 1) 0 := by
  induction l generalizing a with
  | nil => simp
  | cons n l ih => simp only [List.foldl_cons]; rw [ih, ih (0 + n + 1)]; omega

/-- The lengths of the lines before the last line of `p ++ c`, one byte for each break, and the
bytes on its last line add up to its byte length less one byte for each CR LF pair. By
induction on `c`, where `p` is the start of the line being read. -/
theorem lines_before_add {p : List Char} (hp : '\n' ∉ p) (c rest : List Char) :
    ((lineLengths (p ++ c ++ rest)).take (c.count '\n')).foldl (fun acc n => acc + n + 1) 0 +
      bytesOnLastLine (p ++ c) + crlfCount (p ++ c) = utf8Length (p ++ c) := by
  induction c generalizing p with
  | nil =>
    simp [bytesOnLastLine_of_not_mem hp, crlfCount_of_not_mem hp]
  | cons x c ih =>
    by_cases hx : x = '\n'
    · subst hx
      have hc := ih (p := []) List.not_mem_nil
      simp only [List.nil_append] at hc
      have hlen := utf8Length_dropCR p
      have hbreak : utf8Length ('\n' :: c) = utf8Length c + 1 := by
        rw [← List.singleton_append, utf8Length_append, Nat.add_comm]
        rfl
      rw [List.append_assoc, List.cons_append, lineLengths_line hp, List.count_cons_self,
        List.take_succ_cons, List.foldl_cons, foldl_add_succ, bytesOnLastLine_line,
        crlfCount_line hp, utf8Length_append, hbreak]
      omega
    · have hpx : '\n' ∉ p ++ [x] := by simp [hp, Ne.symm hx]
      have := ih hpx
      rw [List.count_cons_of_ne hx]
      simpa only [List.append_assoc, List.cons_append, List.singleton_append,
        List.nil_append] using this

/-- The offset a report computes for the place after `c`, a prefix of the text: the bytes of `c`
less one for each CR LF pair in it. -/
theorem offsetOf_after {text : String} {c rest : List Char} (h : text.toList = c ++ rest) :
    offsetOf text (Position.after c).line (Position.after c).column =
      utf8Length c - crlfCount c := by
  have key := lines_before_add (p := []) List.not_mem_nil c rest
  simp only [List.nil_append] at key
  unfold offsetOf
  simp only [Position.after, Nat.add_sub_cancel, h]
  have hle : utf8Length c ≤ utf8Length (c ++ rest) := by rw [utf8Length_append]; omega
  omega

end Program

namespace Formula

open Text

theorem stoppedAt_eq_malformed {s r : List Char} (hr : r <:+ s) {d d' : Detail}
    {line column : Nat} (h : stoppedAt s r d = .malformed line column d') :
    ∃ consumed rest, s = consumed ++ rest ∧ Position.after consumed = ⟨line, column⟩ := by
  obtain ⟨c, rfl⟩ := hr
  refine ⟨c, r, rfl, ?_⟩
  simp only [stoppedAt, consumedBefore_append, ParseError.malformed.injEq] at h
  rw [← h.1, ← h.2.1]

/-- Every syntax error of the formula reader is placed after a prefix of the text, the part read
before reading stopped. -/
theorem read_malformed {limits : Limits} {text : String} {line column : Nat} {detail : Detail}
    (h : read limits text = .error (.malformed line column detail)) :
    ∃ consumed rest, text.toList = consumed ++ rest ∧
      Position.after consumed = ⟨line, column⟩ := by
  unfold read at h
  dsimp only at h
  split at h
  next => cases h
  next r hr _ => exact stoppedAt_eq_malformed hr (Except.error.inj h)
  next r hr _ =>
    split at h
    next => cases h
    next c rest hc =>
      have hs : c :: rest <:+ text.toList := (hc ▸ skipBlanks_suffix r).trans hr
      exact stoppedAt_eq_malformed hs (Except.error.inj h)

end Formula

namespace Header

open Text

theorem afterLabel_suffix (s : List Char) : afterLabel s <:+ s := by
  rcases afterLabel_cases s with h | ⟨lab, w, h, -, -⟩
  · rw [h]
  · exact ⟨lab ++ w, h.symm⟩

theorem afterFormula_suffix (r : List Char) : afterFormula r <:+ r := by
  unfold afterFormula
  split
  next t ht =>
    exact (skipBlanks_suffix t).trans ((List.suffix_cons _ _).trans (ht ▸ skipBlanks_suffix r))
  next => exact skipBlanks_suffix r

theorem dropWord_suffix {word s r : List Char} (h : dropWord word s = some r) : r <:+ s :=
  ⟨word, (dropWord_eq_some h).symm⟩

theorem skipBlanks_cons_suffix {s r : List Char} {c : Char} (h : skipBlanks s = c :: r) :
    r <:+ s :=
  (List.suffix_cons c r).trans (h ▸ skipBlanks_suffix s)

theorem scan_suffix {L : Nat} {s r : List Char}
    (h : scan L s = .fail r ∨ ∃ count e, scan L s = .ok count e r) : r <:+ s := by
  have stop : ∀ {x}, x <:+ s →
      (Scan.fail x = .fail r ∨ ∃ count e, Scan.fail x = .ok count e r) → r <:+ s := by
    intro x hx h
    simp only [Scan.fail.injEq, reduceCtorEq, exists_false, or_false] at h
    exact h ▸ hx
  have h₂ : skipBlanks (afterLabel (skipBlanks s)) <:+ s :=
    (skipBlanks_suffix _).trans ((afterLabel_suffix _).trans (skipBlanks_suffix s))
  unfold scan at h
  dsimp only at h
  split at h
  next => exact stop h₂ h
  next s₃ h₃ =>
    have h₃' := (dropWord_suffix h₃).trans h₂
    split at h
    next s₅ h₅ =>
      have h₅' := (skipBlanks_cons_suffix h₅).trans h₃'
      split at h
      next => exact stop ((skipBlanks_suffix s₅).trans h₅') h
      next v s₇ h₇ =>
        have h₇' :=
          (Formula.readLiteral?_suffix h₇).trans ((skipBlanks_suffix s₅).trans h₅')
        split at h
        next s₉ h₉ =>
          have h₉' := (skipBlanks_cons_suffix h₉).trans h₇'
          split at h
          next => exact stop ((skipBlanks_suffix s₉).trans h₉') h
          next s₁₁ h₁₁ =>
            have h₁₁' := (dropWord_suffix h₁₁).trans ((skipBlanks_suffix s₉).trans h₉')
            split at h
            next s₁₃ h₁₃ =>
              have h₁₃' := (skipBlanks_cons_suffix h₁₃).trans h₁₁'
              split at h
              next => simp at h
              next r' hr' _ => exact stop (hr'.trans h₁₃') h
              next e r' hr' _ =>
                simp only [reduceCtorEq, Scan.ok.injEq, false_or] at h
                obtain ⟨_, _, -, -, rfl⟩ := h
                exact (afterFormula_suffix r').trans (hr'.trans h₁₃')
            next => exact stop ((skipBlanks_suffix s₁₁).trans h₁₁') h
        next => exact stop ((skipBlanks_suffix s₇).trans h₇') h
    next => exact stop ((skipBlanks_suffix s₃).trans h₃') h

end Header

namespace Rule

open Text

theorem readHeader_malformed {limits : Limits} {text : String} {line column : Nat}
    {detail : Detail}
    (h : readHeader limits text = .error (.parse (.malformed line column detail))) :
    ∃ consumed rest, text.toList = consumed ++ rest ∧
      Position.after consumed = ⟨line, column⟩ := by
  unfold readHeader at h
  dsimp only at h
  split at h
  next => cases h
  next r hr =>
    exact Formula.stoppedAt_eq_malformed (Header.scan_suffix (.inl hr))
      (HeaderError.parse.inj (Except.error.inj h))
  next =>
    split at h
    next => cases h
    next => cases h
  next count e c rest hs =>
    exact Formula.stoppedAt_eq_malformed (Header.scan_suffix (.inr ⟨_, _, hs⟩))
      (HeaderError.parse.inj (Except.error.inj h))

end Rule

namespace Program

open Text

/-- Where a syntax report points: for a formula or a header that fails to read with a syntax
error at `line`:`column`, that place is the end of a prefix of the text, the part read before
reading stopped, and the report's span starts at the bytes of that prefix less one byte for every
CR LF pair in it. Lines are cut again by the report with CR LF as one break and counted one byte
each, so the span is early by one byte for every such pair before the error. -/
theorem parseReport_offset {limits : Limits} {text : String} {line column : Nat}
    {detail : Detail}
    (h : Formula.read limits text = .error (.malformed line column detail) ∨
      Rule.readHeader limits text = .error (.parse (.malformed line column detail)))
    (name : String) :
    ∃ consumed rest, text.toList = consumed ++ rest ∧
      Position.after consumed = ⟨line, column⟩ ∧
      (parseReport name text (.malformed line column detail)).snippet.map
          Report.Snippet.offset = some (utf8Length consumed - crlfCount consumed) := by
  obtain ⟨c, rest, hs, hp⟩ :=
    h.elim Formula.read_malformed Rule.readHeader_malformed
  refine ⟨c, rest, hs, hp, ?_⟩
  have hl : line = (Position.after c).line := by rw [hp]
  have hc : column = (Position.after c).column := by rw [hp]
  simp only [parseReport, Option.map_some]
  rw [hl, hc, offsetOf_after hs]

theorem parseReport_offset_crlf :
    (Formula.read {} "n\r\n$" = .error (.malformed 2 1 (.unexpected '$')) ∨
      Rule.readHeader {} "n\r\n$" = .error (.parse (.malformed 2 1 (.unexpected '$')))) ∧
    ∃ consumed rest, "n\r\n$".toList = consumed ++ rest ∧
      Position.after consumed = ⟨2, 1⟩ ∧
      (parseReport "formula" "n\r\n$" (.malformed 2 1 (.unexpected '$'))).snippet.map
          Report.Snippet.offset = some (utf8Length consumed - crlfCount consumed) :=
  have h : Formula.read {} "n\r\n$" = .error (.malformed 2 1 (.unexpected '$')) := by
    decide +kernel
  ⟨.inl h, parseReport_offset (.inl h) "formula"⟩

theorem report_points_before_crlf :
    Formula.read {} "n\r\n$" =
        .error (Formula.stoppedAt "n\r\n$".toList "$".toList (.unexpected '$')) ∧
      utf8Length (consumedBefore "n\r\n$".toList "$".toList) = 3 ∧
      (parseReport "formula" "n\r\n$"
          (Formula.stoppedAt "n\r\n$".toList "$".toList (.unexpected '$'))).snippet.map
        Report.Snippet.offset = some 2 := by
  decide +kernel

end Program

/-! ### Checked and unchecked indices -/

namespace Rule

theorem formIndex_eq_ok {r : Rule} {n k : Int64} :
    r.formIndex n = .ok k ↔ r.root.eval n = .ok k ∧ r.names k := by
  unfold formIndex
  cases r.root.eval n with
  | error e => simp [Except.bind]
  | ok v => by_cases hv : r.names v <;> simp [Except.bind, hv] <;> grind

theorem index_eq_ok {r : Rule} {n : Int64} {i : Int32} :
    r.index n = .ok i ↔ ∃ v, r.root.eval n = .ok v ∧ v.toInt32 = i := by
  unfold index
  cases r.root.eval n <;> simp [Except.map]

/-- The formula's value at `n`, when there is one, lies in the 32-bit range, so its low 32 bits
keep it. -/
def Fits32At (r : Rule) (n : Int64) : Prop :=
  ∀ v, r.root.eval n = .ok v → -2 ^ 31 ≤ v.toInt ∧ v.toInt < 2 ^ 31

end Rule

theorem toInt_toInt32_of_fits {v : Int64} (h₁ : -2 ^ 31 ≤ v.toInt) (h₂ : v.toInt < 2 ^ 31) :
    v.toInt32.toInt = v.toInt := by
  rw [Int64.toInt_toInt32]
  exact Int.bmod_eq_of_le (by omega) (by omega)

namespace Program

theorem outcomeOf_eq_index {n n' i : Int64} {x : Except EvalError Int64} :
    outcomeOf n x = .index n' i ↔ x = .ok i ∧ n = n' := by
  cases x <;> simp [outcomeOf, and_comm]

theorem evaluate_unchecked_eq_ok {r : Rule} {n i : Int64} :
    evaluate r false n = .ok i ↔ ∃ j, r.index n = .ok j ∧ j.toInt64 = i := by
  simp only [evaluate, Bool.false_eq_true, if_false]
  cases r.index n <;> simp [Except.map]

section Fits

variable {r : Rule} {n : Int64}

/-- Where the formula's value at `n` fits 32 bits, the checked index is `k` exactly when the
unchecked one is `k` and names a form. -/
theorem formIndex_eq_ok_iff_of_fits
    (hfit : r.Fits32At n) (k : Int64) :
    r.formIndex n = .ok k ↔
      ∃ i, r.index n = .ok i ∧ 0 ≤ i.toInt ∧ i.toInt < r.count ∧ i.toInt = k.toInt := by
  constructor
  · intro hk
    obtain ⟨hv, hnames⟩ := Rule.formIndex_eq_ok.1 hk
    have hkk := toInt_toInt32_of_fits (hfit k hv).1 (hfit k hv).2
    simp only [Rule.names, decide_eq_true_eq] at hnames
    exact ⟨k.toInt32, Rule.index_eq_ok.2 ⟨k, hv, rfl⟩, by omega, by omega, hkk⟩
  · rintro ⟨i, hi, h0, hc, hik⟩
    obtain ⟨v, hv, rfl⟩ := Rule.index_eq_ok.1 hi
    have hvv := toInt_toInt32_of_fits (hfit v hv).1 (hfit v hv).2
    obtain rfl : v = k := Int64.toInt_inj.1 (by omega)
    exact Rule.formIndex_eq_ok.2 ⟨hv, by simp only [Rule.names, decide_eq_true_eq]; omega⟩

/-- Where the formula's value at `n` fits 32 bits, the table shows the index of `n` as in range
exactly when the checked evaluation gives an index. -/
theorem inRange_iff_checked
    (hfit : r.Fits32At n) :
    (∃ i, outcomeOf n (evaluate r false n) = .index n i ∧ inRange r.count i) ↔
      ∃ k, outcomeOf n (evaluate r true n) = .index n k := by
  simp only [outcomeOf_eq_index, and_true]
  constructor
  · rintro ⟨i, hi, hin⟩
    obtain ⟨j, hj, rfl⟩ := evaluate_unchecked_eq_ok.1 hi
    simp only [inRange, Int32.toInt_toInt64, decide_eq_true_eq] at hin
    refine ⟨j.toInt64, (formIndex_eq_ok_iff_of_fits hfit _).2 ⟨j, hj, hin.1, hin.2, ?_⟩⟩
    rw [Int32.toInt_toInt64]
  · rintro ⟨k, hk⟩
    obtain ⟨i, hi, h0, hc, -⟩ := (formIndex_eq_ok_iff_of_fits hfit k).1 hk
    refine ⟨i.toInt64, evaluate_unchecked_eq_ok.2 ⟨i, hi, rfl⟩, ?_⟩
    simp only [inRange, Int32.toInt_toInt64, decide_eq_true_eq]
    exact ⟨h0, hc⟩

end Fits

/-- Checked and unchecked indices. The checked path takes the formula's full value and requires
it to name a form; the unchecked one keeps its low 32 bits, and the table marks them when they
name no form. Wherever the formula's value lies in the 32-bit range the two agree: the checked
index is `k` exactly when the unchecked index is `k` and names a form, and the table shows the
index of `n` as in range exactly when `eval --checked` reports an index for `n`. -/
theorem formIndex_eq_ok_iff_index (r : Rule) (n : Int64)
    (hfit : r.Fits32At n) :
    (∀ k, r.formIndex n = .ok k ↔
        ∃ i, r.index n = .ok i ∧ 0 ≤ i.toInt ∧ i.toInt < r.count ∧ i.toInt = k.toInt) ∧
      ((∃ i, outcomeOf n (evaluate r false n) = .index n i ∧ inRange r.count i) ↔
        ∃ k, outcomeOf n (evaluate r true n) = .index n k) :=
  ⟨formIndex_eq_ok_iff_of_fits hfit, inRange_iff_checked hfit⟩

theorem formIndex_eq_ok_iff_index_fallback :
    Rule.fallback.Fits32At 5 ∧
      (∀ k, Rule.fallback.formIndex 5 = .ok k ↔ ∃ i, Rule.fallback.index 5 = .ok i ∧
          0 ≤ i.toInt ∧ i.toInt < Rule.fallback.count ∧ i.toInt = k.toInt) ∧
      ((∃ i, outcomeOf 5 (evaluate Rule.fallback false 5) = .index 5 i ∧
          inRange Rule.fallback.count i) ↔
        ∃ k, outcomeOf 5 (evaluate Rule.fallback true 5) = .index 5 k) :=
  have hfit : Rule.fallback.Fits32At 5 := by
    intro v hv
    have h1 : Rule.fallback.root.eval 5 = .ok 1 := by decide
    obtain rfl : v = 1 := Except.ok.inj (hv.symm.trans h1)
    decide
  ⟨hfit, formIndex_eq_ok_iff_index Rule.fallback 5 hfit⟩

/-- At `2 ^ 32` the formula `n` of a rule with two forms has the low 32 bits 0: the unchecked
index names the first form and the table shows it in range, while the checked evaluation refuses
the full value. -/
theorem index_low_bits_in_range :
    let r : Rule := { count := 2, root := .var, count_pos := by decide, count_le := by decide }
    r.index 4294967296 = .ok 0 ∧ inRange r.count 0 ∧
      outcomeOf 4294967296 (evaluate r false 4294967296) = .index 4294967296 0 ∧
      r.formIndex 4294967296 = .error (.indexOutOfRange 4294967296 2) ∧
      (outcomeOf 4294967296 (evaluate r true 4294967296)).isError := by
  decide

end Program

end PluralForms
