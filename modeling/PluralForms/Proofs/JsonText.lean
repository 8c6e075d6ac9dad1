import Mathlib
import PluralForms.Json.Write
import PluralForms.Json.Decode

/-!
# Reading back what the writer writes

Facts about the decoding pieces of `Json.Decode` on text the compact writer produces: a string of
plain characters between quotes, a 64-bit integer in decimal, and an object whose members are
the fields of a record in order. Each is stated for any text that follows, as the decoder of a
larger document sees it.

For the other direction, a record body that is read successfully holds only values that its field
reader returned.
-/

namespace PluralForms

namespace Json

section Results

/-! Inversions of the decoder's result types, for reading a successful parse backwards. -/

theorem Decoded.map_eq_ok {α β : Type} {f : α → β} {x : Decoded α} {b : β} {r : List Char} :
    x.map f = .ok b r ↔ ∃ a, x = .ok a r ∧ f a = b := by
  cases x <;> simp [Decoded.map, and_comm]

theorem Decoded.ofScan_map_eq_ok {α β : Type} {x : Scan β} {g : β → α × List Char} {a : α}
    {r : List Char} (h : Decoded.ofScan (x.map g) = .ok a r) : ∃ b, x = .ok b ∧ g b = (a, r) := by
  cases x with
  | error => cases h
  | ok b =>
    simp only [Except.map, Decoded.ofScan] at h
    exact ⟨b, rfl, by cases h; rfl⟩

end Results

section Strings

/-- A character that a string literal holds as itself. -/
def Plain (c : Char) : Bool := decide (0x20 ≤ c.toNat) && c != '"' && c != '\\'

theorem escapeChar_plain {c : Char} (hc : Plain c) : escapeChar c = c.toString := by
  simp only [Plain, Bool.and_eq_true, decide_eq_true_eq, bne_iff_ne, ne_eq] at hc
  obtain ⟨⟨h20, hq⟩, hb⟩ := hc
  unfold escapeChar
  split_ifs <;> simp_all
  omega

theorem quote_plain {s : String} (hs : s.toList.all Plain) :
    (quote s).toList = '"' :: s.toList ++ ['"'] := by
  have hmap : s.toList.map escapeChar = s.toList.map Char.toString :=
    List.map_congr_left fun c hc => escapeChar_plain (List.all_eq_true.1 hs c hc)
  simp [quote, hmap, List.flatMap_map]

theorem space_cons {c : Char} (hc : isSpace c = false) (s : List Char) :
    space (c :: s) = c :: s := by
  simp [space, skipSpace, hc]

theorem stringBody_cons_plain (src : List Char) {c : Char} (hc : Plain c) (acc s : List Char) :
    stringBody src acc (c :: s) = stringBody src (c :: acc) s := by
  simp only [Plain, Bool.and_eq_true, decide_eq_true_eq, bne_iff_ne, ne_eq] at hc
  obtain ⟨⟨h20, hq⟩, hb⟩ := hc
  rw [stringBody.eq_def]
  split <;> simp_all

theorem stringBody_close (src acc r : List Char) :
    stringBody src acc ('"' :: r) = .ok (String.ofList acc.reverse, r) := by
  rw [stringBody.eq_def]
  rfl

theorem stringBody_plain (src : List Char) {cs : List Char} (hcs : cs.all Plain)
    (acc r : List Char) :
    stringBody src acc (cs ++ '"' :: r) = .ok (String.ofList (acc.reverse ++ cs), r) := by
  induction cs generalizing acc with
  | nil => simp [stringBody_close]
  | cons c cs ih =>
    simp only [List.all_cons, Bool.and_eq_true] at hcs
    rw [List.cons_append, stringBody_cons_plain src hcs.1, ih hcs.2]
    simp

end Strings

section Numbers

theorem toDigits_head_ne_zero {n : Nat} (hn : 0 < n) :
    ∃ c ds, Nat.toDigits 10 n = c :: ds ∧ c ≠ '0' := by
  induction n using Nat.strongRecOn with
  | _ n ih =>
    rw [Nat.toDigits_eq_if (by decide)]
    split
    · refine ⟨_, [], rfl, ?_⟩
      interval_cases n <;> decide
    · obtain ⟨c, ds, h, hc⟩ := ih (n / 10) (by omega) (by omega)
      exact ⟨c, ds ++ _, by rw [h]; rfl, hc⟩

theorem digitsFront_append {ds : List Char} (hds : ∀ c ∈ ds, c.isDigit) {c : Char}
    (hc : c.isDigit = false) (r : List Char) : digitsFront (ds ++ c :: r) = (ds, c :: r) := by
  induction ds with
  | nil => simp [digitsFront, hc]
  | cons d ds ih =>
    have hd := hds d (by simp)
    have := ih (fun x hx => hds x (by simp [hx]))
    simp_all [digitsFront]

theorem fold_digits {ds : List Char} (hds : ∀ c ∈ ds, c.isDigit) (acc : Nat)
    (h : Nat.ofDigitChars 10 ds acc ≤ maxU64) :
    numberAfterSign.fold ds acc = (Nat.ofDigitChars 10 ds acc, 0) := by
  induction ds generalizing acc with
  | nil => simp [numberAfterSign.fold]
  | cons d ds ih =>
    rw [Nat.ofDigitChars_cons] at h
    have hle : 10 * acc + (d.toNat - '0'.toNat) ≤ maxU64 := by
      rw [Nat.ofDigitChars_eq_ofDigitChars_zero] at h
      have : 10 * acc + (d.toNat - '0'.toNat) ≤
          10 ^ ds.length * (10 * acc + (d.toNat - '0'.toNat)) :=
        Nat.le_mul_of_pos_left _ (Nat.pow_pos (by decide))
      omega
    rw [numberAfterSign.fold, if_neg (by rw [Nat.mul_comm]; omega), Nat.ofDigitChars_cons,
      Nat.mul_comm acc 10, ih (fun x hx => hds x (by simp [hx])) _ h]

/-- The digits of a number within 64 bits, followed by a closing brace, are read as that number;
what the number becomes depends on its sign and on what follows it. -/
theorem numberAfterSign_digits (src : List Char) (positive : Bool) {n : Nat} (hn : n ≤ maxU64)
    (r : List Char) :
    numberAfterSign src positive (Nat.toDigits 10 n ++ '\x7d' :: r) =
      afterInteger src positive n 0 ('\x7d' :: r) := by
  have hds : ∀ c ∈ Nat.toDigits 10 n, c.isDigit := fun _ hc =>
    Nat.isDigit_of_mem_toDigits (by decide) (by decide) hc
  rcases Nat.eq_zero_or_pos n with rfl | hpos
  · simp [numberAfterSign]
  · obtain ⟨c, ds, hcd, hc0⟩ := toDigits_head_ne_zero hpos
    have hc : c.isDigit := hds c (by simp [hcd])
    have hfront := digitsFront_append hds (c := '\x7d') (by decide) r
    have hfold := fold_digits hds 0 (by rw [Nat.ofDigitChars_ten_toDigits]; exact hn)
    rw [Nat.ofDigitChars_ten_toDigits] at hfold
    rw [hcd, List.cons_append] at hfront
    rw [hcd] at hfold
    simp only [hcd, List.cons_append, numberAfterSign, hc, if_true, hfront, hfold]

theorem isSpace_of_isDigit {c : Char} (hc : c.isDigit) : isSpace c = false := by
  cases h : isSpace c
  · rfl
  · simp only [isSpace, Bool.or_eq_true, decide_eq_true_eq] at h
    rcases h with ((rfl | rfl) | rfl) | rfl <;> simp at hc

theorem afterInteger_close_unsigned (src : List Char) (sig : Nat) (r : List Char) :
    afterInteger src true sig 0 ('\x7d' :: r) = .ok (.unsigned sig, '\x7d' :: r) := by
  simp [afterInteger]

theorem afterInteger_close_signed (src : List Char) {sig : Nat} (h0 : sig ≠ 0) (hs : sig ≤ 2 ^ 63)
    (r : List Char) :
    afterInteger src false sig 0 ('\x7d' :: r) = .ok (.signed (-(sig : Int)), '\x7d' :: r) := by
  simp [afterInteger, h0]
  intro h
  omega

theorem int64Value_written (src : List Char) (v : Int64) (r : List Char) :
    int64Value src ((toString v.toInt).toList ++ '\x7d' :: r) = .ok (v, '\x7d' :: r) := by
  have hlt := Int64.toInt_lt v
  have hle := Int64.le_toInt v
  rw [Int.toString_eq_repr, Int.repr_eq_if]
  by_cases h : 0 ≤ v.toInt
  · rw [if_pos h, Nat.toList_repr]
    obtain ⟨c, ds, hcd⟩ :=
      List.exists_cons_of_ne_nil (Nat.toDigits_ne_nil (n := v.toInt.toNat) (b := 10))
    have hc : c.isDigit :=
      Nat.isDigit_of_mem_toDigits (by decide) (by decide) (hcd ▸ List.mem_cons_self)
    have hnum := numberAfterSign_digits src true (n := v.toInt.toNat) (by unfold maxU64; omega) r
    rw [hcd] at hnum
    simp only [int64Value, hcd, List.cons_append, space_cons (isSpace_of_isDigit hc)]
    split
    · simp_all
    · simp_all
    · rename_i heq
      obtain ⟨rfl, rfl⟩ := List.cons.inj heq
      rw [List.cons_append] at hnum
      have hv : Int64.ofNat v.toInt.toNat = v := by
        rw [← Int64.ofInt_eq_ofNat, Int.toNat_of_nonneg h, Int64.ofInt_toInt]
      have hsmall : v.toInt.toNat < 9223372036854775808 := by omega
      rw [if_pos hc, hnum, afterInteger_close_unsigned]
      dsimp only
      rw [if_pos hsmall, hv]
  · have hm : 0 < (-v.toInt).toNat ∧ (-v.toInt).toNat ≤ 2 ^ 63 := by omega
    have hnum :=
      numberAfterSign_digits src false (n := (-v.toInt).toNat) (by unfold maxU64; omega) r
    have hv : Int64.ofInt (-((-v.toInt).toNat : Int)) = v := by
      rw [Int.toNat_of_nonneg (by omega), Int.neg_neg, Int64.ofInt_toInt]
    rw [if_neg h, String.toList_append, Nat.toList_repr, show "-".toList = ['-'] from rfl]
    simp only [int64Value, List.cons_append, List.nil_append,
      space_cons (show isSpace '-' = false by decide), hnum,
      afterInteger_close_signed src (Nat.pos_iff_ne_zero.1 hm.1) hm.2, hv]

end Numbers

section Tokens

theorem colon_cons (src r : List Char) : colon src (':' :: r) = .ok r := by
  simp [colon, space_cons, isSpace]

theorem memberStart_first (src r : List Char) : memberStart src true ('"' :: r) = .ok (some r) := by
  simp [memberStart, space_cons, isSpace]

theorem memberStart_next (src r : List Char) :
    memberStart src false (',' :: '"' :: r) = .ok (some r) := by
  simp [memberStart, space_cons, isSpace]

theorem memberStart_close (src r : List Char) : memberStart src false ('\x7d' :: r) = .ok none := by
  simp [memberStart, space_cons, isSpace]

theorem variantKey_plain (src : List Char) {key : String} (hkey : key.toList.all Plain)
    (r : List Char) : variantKey src ('"' :: (key.toList ++ '"' :: r)) = .ok (key, r) := by
  simp [variantKey, space_cons, isSpace, stringBody_plain src hkey]

theorem unitVariant_plain (src : List Char) {names : List String} {name : String}
    (hname : name.toList.all Plain) (hmem : name ∈ names) (depth : Nat) (r : List Char) :
    unitVariant src names depth ('"' :: (name.toList ++ '"' :: r)) = .ok name r := by
  simp [unitVariant, space_cons, isSpace, stringBody_plain src hname, hmem]

end Tokens

section Records

variable {α : Type} {src : List Char} {names : List String} {field : Nat → List Char → Decoded α}

theorem recordMembers_first {fuel : Nat} {slots : List (Option α)} {key : String}
    (hkey : key.toList.all Plain) {i : Nat} (hi : names.idxOf? key = some i)
    (hfree : slots.getD i none = none) {x rest : List Char} {v : α} (hv : field i x = .ok v rest) :
    recordMembers src names field (fuel + 1) true slots ('"' :: (key.toList ++ '"' :: ':' :: x)) =
      recordMembers src names field fuel false (slots.set i (some v)) rest := by
  rw [List.getD_eq_getElem?_getD] at hfree
  simp [recordMembers, memberStart_first, stringBody_plain src hkey, hi, hfree, colon_cons, hv]

theorem recordMembers_next {fuel : Nat} {slots : List (Option α)} {key : String}
    (hkey : key.toList.all Plain) {i : Nat} (hi : names.idxOf? key = some i)
    (hfree : slots.getD i none = none) {x rest : List Char} {v : α} (hv : field i x = .ok v rest) :
    recordMembers src names field (fuel + 1) false slots
        (',' :: '"' :: (key.toList ++ '"' :: ':' :: x)) =
      recordMembers src names field fuel false (slots.set i (some v)) rest := by
  rw [List.getD_eq_getElem?_getD] at hfree
  simp [recordMembers, memberStart_next, stringBody_plain src hkey, hi, hfree, colon_cons, hv]

theorem recordMembers_close (fuel : Nat) (slots : List (Option α)) (r : List Char) :
    recordMembers src names field (fuel + 1) false slots ('\x7d' :: r) =
      .ok slots ('\x7d' :: r) := by
  simp [recordMembers, memberStart_close, space_cons, isSpace]

theorem recordBody_object {expected : String} {r rest : List Char} {slots : List (Option α)}
    {vs : List α}
    (hm : recordMembers src names field (r.length + 1) true (names.map fun _ => none) r =
      .ok slots ('\x7d' :: rest))
    (hall : allGiven names slots = .ok vs) :
    recordBody src names expected field ('\x7b' :: r) = .ok vs rest := by
  simp only [recordBody, hm, hall]
  simp [closeMembers, space_cons, isSpace]

theorem recordBody_two {expected : String} {k₀ k₁ : String} (hk₀ : k₀.toList.all Plain)
    (hk₁ : k₁.toList.all Plain) (hi₀ : [k₀, k₁].idxOf? k₀ = some 0)
    (hi₁ : [k₀, k₁].idxOf? k₁ = some 1) {x₀ x₁ rest : List Char} {v₀ v₁ : α}
    (hv₀ : field 0 x₀ = .ok v₀ (',' :: '"' :: (k₁.toList ++ '"' :: ':' :: x₁)))
    (hv₁ : field 1 x₁ = .ok v₁ ('\x7d' :: rest)) :
    recordBody src [k₀, k₁] expected field ('\x7b' :: '"' :: (k₀.toList ++ '"' :: ':' :: x₀)) =
      .ok [v₀, v₁] rest := by
  obtain ⟨fuel, hfuel⟩ : ∃ fuel, ('"' :: (k₀.toList ++ '"' :: ':' :: x₀)).length + 1 = fuel + 3 :=
    ⟨k₀.toList.length + x₀.length + 1, by simp; omega⟩
  refine @recordBody_object _ _ _ _ _ _ _ [some v₀, some v₁] _ ?_ (by simp [allGiven, Except.map])
  rw [hfuel, recordMembers_first hk₀ hi₀ (by simp) hv₀, recordMembers_next hk₁ hi₁ (by simp) hv₁,
    recordMembers_close]
  rfl

theorem recordBody_three {expected : String} {k₀ k₁ k₂ : String}
    (hk₀ : k₀.toList.all Plain) (hk₁ : k₁.toList.all Plain)
    (hk₂ : k₂.toList.all Plain) (hi₀ : [k₀, k₁, k₂].idxOf? k₀ = some 0)
    (hi₁ : [k₀, k₁, k₂].idxOf? k₁ = some 1) (hi₂ : [k₀, k₁, k₂].idxOf? k₂ = some 2)
    {x₀ x₁ x₂ rest : List Char} {v₀ v₁ v₂ : α}
    (hv₀ : field 0 x₀ = .ok v₀ (',' :: '"' :: (k₁.toList ++ '"' :: ':' :: x₁)))
    (hv₁ : field 1 x₁ = .ok v₁ (',' :: '"' :: (k₂.toList ++ '"' :: ':' :: x₂)))
    (hv₂ : field 2 x₂ = .ok v₂ ('\x7d' :: rest)) :
    recordBody src [k₀, k₁, k₂] expected field ('\x7b' :: '"' :: (k₀.toList ++ '"' :: ':' :: x₀)) =
      .ok [v₀, v₁, v₂] rest := by
  obtain ⟨fuel, hfuel⟩ : ∃ fuel, ('"' :: (k₀.toList ++ '"' :: ':' :: x₀)).length + 1 = fuel + 4 :=
    ⟨k₀.toList.length + x₀.length, by simp; omega⟩
  refine @recordBody_object _ _ _ _ _ _ _ [some v₀, some v₁, some v₂] _ ?_
    (by simp [allGiven, Except.map])
  rw [hfuel, recordMembers_first hk₀ hi₀ (by simp) hv₀, recordMembers_next hk₁ hi₁ (by simp) hv₁,
    recordMembers_next hk₂ hi₂ (by simp) hv₂, recordMembers_close]
  rfl

/-- A value that the field reader returned for some field and some text. -/
def FromField (field : Nat → List Char → Decoded α) (v : α) : Prop :=
  ∃ i s r, field i s = .ok v r

theorem recordItems_mem {expected : String} {idx : List Nat} {first : Bool} {acc vs : List α}
    {s r : List Char} (h : recordItems src expected field idx first acc s = .ok vs r)
    (hacc : ∀ v ∈ acc, FromField field v) : ∀ v ∈ vs, FromField field v := by
  induction idx generalizing first acc s with
  | nil =>
    simp only [recordItems, Decoded.ok.injEq] at h
    intro v hv
    exact hacc v (by simpa [← h.1] using hv)
  | cons i idx ih =>
    simp only [recordItems] at h
    split at h
    · cases h
    · cases h
    · rename_i x hs
      split at h
      · rename_i v x' hv
        exact ih h fun w hw => by
          rcases List.mem_cons.1 hw with rfl | hw
          · exact ⟨i, x, x', hv⟩
          · exact hacc w hw
      · cases h

theorem recordMembers_mem {fuel : Nat} {first : Bool} {slots slots' : List (Option α)}
    {s r : List Char} (h : recordMembers src names field fuel first slots s = .ok slots' r)
    (hslots : ∀ v, some v ∈ slots → FromField field v) :
    ∀ v, some v ∈ slots' → FromField field v := by
  induction fuel generalizing first slots s with
  | zero => simp [recordMembers] at h
  | succ fuel ih =>
    simp only [recordMembers] at h
    repeat' split at h
    all_goals try cases h
    · exact hslots
    · rename_i hv
      exact ih h fun w hw => by
        rcases List.mem_or_eq_of_mem_set hw with hw | hw
        · exact hslots w hw
        · cases hw
          exact ⟨_, _, _, hv⟩
    · exact ih h hslots

theorem allGiven_mem {slots : List (Option α)} {vs : List α} (h : allGiven names slots = .ok vs) :
    ∀ v ∈ vs, some v ∈ slots := by
  induction names generalizing slots vs with
  | nil => simp_all [allGiven]
  | cons name names ih =>
    cases slots with
    | nil => simp_all [allGiven]
    | cons slot slots =>
      cases slot with
      | none => simp [allGiven] at h
      | some w =>
        simp only [allGiven] at h
        cases hr : allGiven names slots with
        | error e => simp [hr, Except.map] at h
        | ok ws =>
          simp only [hr, Except.map, Except.ok.injEq] at h
          subst h
          intro v hv
          rcases List.mem_cons.1 hv with rfl | hv
          · exact List.mem_cons_self
          · exact List.mem_cons_of_mem _ (ih hr v hv)

theorem recordBody_mem {expected : String} {s r : List Char} {vs : List α}
    (h : recordBody src names expected field s = .ok vs r) : ∀ v ∈ vs, FromField field v := by
  unfold recordBody at h
  split at h
  all_goals dsimp only at h
  all_goals repeat' split at h
  all_goals try cases h
  · rename_i hret _
    exact recordItems_mem hret (by simp)
  · rename_i hret _
    split at hret
    · rename_i hm
      split at hret
      · rename_i hall
        cases hret
        exact fun v hv => recordMembers_mem hm (by simp) v (allGiven_mem hall v hv)
      · cases hret
    · cases hret

end Records

end Json

end PluralForms
