import Mathlib
import PluralForms.Proofs.JsonText
import PluralForms.Proofs.Height
import PluralForms.Tree.Read
import PluralForms.Tree.Write

/-!
# Formula documents read back

The JSON document of a formula (`Formula.toJson`, written compactly) reads back as the formula
exactly when its objects nest no deeper than the reader's budget of `Tree.depthLimit` levels.
`Formula.jsonDepth` counts that nesting: the variable is a bare string, a literal one object,
and a node with a body two objects above its deepest child.

Both directions hold for any budget. Reading the written text of `e` with `d` levels, followed by
any text, gives `e` when `e.jsonDepth ≤ d` (`formula_write`); and whatever the reader returns from
any text with `d` levels is at most `d` deep (`jsonDepth_le_of_formula`).
-/

namespace PluralForms

open Json

/- The equation lemmas of the writer and the reader are generated here, once, before the proofs
below unfold them; otherwise every proof checked in parallel waits for the first one to make
them. -/
section
attribute [local simp] Formula.toJson Json.write Json.writeMembers Tree.formula
end

theorem BinOp.name_plain (op : BinOp) : op.name.toList.all Plain := by
  cases op <;> decide

theorem BinOp.name_mem (op : BinOp) : op.name ∈ BinOp.all.map BinOp.name := by
  cases op <;> decide

namespace Formula

/-- How deeply the JSON document of a formula nests objects. -/
def jsonDepth : Formula → Nat
  | .num _ => 1
  | .var => 0
  | .not e => e.jsonDepth + 2
  | .binary _ l r => max l.jsonDepth r.jsonDepth + 2
  | .ternary c t f => max c.jsonDepth (max t.jsonDepth f.jsonDepth) + 2

/- The same for the equation lemmas of the depth. -/
section
attribute [local simp] jsonDepth
end

section Text

theorem write_var_toList : (write var.toJson).toList = '"' :: ("n".toList ++ ['"']) := by
  simp (disch := decide) [toJson, write, quote_plain]

theorem write_num_toList (v : Int64) :
    (write (num v).toJson).toList =
      '\x7b' :: '"' :: ("number".toList ++ '"' :: ':' ::
        ((toString v.toInt).toList ++ ['\x7d'])) := by
  simp (disch := decide) [toJson, write, writeMembers, quote_plain, Json.int]

theorem write_not_toList (e : Formula) :
    (write (not e).toJson).toList =
      '\x7b' :: '"' :: ("unary".toList ++ '"' :: ':' :: '\x7b' :: '"' :: ("op".toList ++ '"' ::
        ':' :: '"' :: ("not".toList ++ '"' :: ',' :: '"' :: ("operand".toList ++ '"' :: ':' ::
          ((write e.toJson).toList ++ ['\x7d', '\x7d']))))) := by
  simp (disch := decide) [toJson, write, writeMembers, quote_plain]

theorem write_binary_toList (op : BinOp) (l r : Formula) :
    (write (binary op l r).toJson).toList =
      '\x7b' :: '"' :: ("binary".toList ++ '"' :: ':' :: '\x7b' :: '"' :: ("op".toList ++ '"' ::
        ':' :: '"' :: (op.name.toList ++ '"' :: ',' :: '"' :: ("lhs".toList ++ '"' :: ':' ::
          ((write l.toJson).toList ++ ',' :: '"' :: ("rhs".toList ++ '"' :: ':' ::
            ((write r.toJson).toList ++ ['\x7d', '\x7d']))))))) := by
  simp (disch := decide) [toJson, write, writeMembers, quote_plain,
    quote_plain (BinOp.name_plain op)]

theorem write_ternary_toList (c t f : Formula) :
    (write (ternary c t f).toJson).toList =
      '\x7b' :: '"' :: ("ternary".toList ++ '"' :: ':' :: '\x7b' :: '"' :: ("condition".toList ++
        '"' :: ':' :: ((write c.toJson).toList ++ ',' :: '"' :: ("if_true".toList ++ '"' :: ':' ::
          ((write t.toJson).toList ++ ',' :: '"' :: ("if_false".toList ++ '"' :: ':' ::
            ((write f.toJson).toList ++ ['\x7d', '\x7d']))))))) := by
  simp (disch := decide) [toJson, write, writeMembers, quote_plain]

end Text

end Formula

namespace Tree

/-- The reader of a body's fields, with `k` levels left for each of them. -/
def fieldOf (src : List Char) (shape : Shape) (k : Nat) (i : Nat) (s : List Char) : Decoded Slot :=
  match shape.operators with
  | some names =>
    if i = 0 then (unitVariant src names k s).map Slot.op else (formula src k s).map Slot.tree
  | none => (formula src k s).map Slot.tree

theorem closeObject_ok (src : List Char) (v : Formula) (r : List Char) :
    closeObject src (.ok v ('\x7d' :: r)) = .ok v r := by
  simp [closeObject, space_cons, isSpace]

theorem formula_var (src : List Char) (d : Nat) (rest : List Char) :
    formula src d ('"' :: ("n".toList ++ '"' :: rest)) = .ok .var rest := by
  rw [formula]
  simp (disch := decide) only [space_cons, stringBody_plain]
  rfl

theorem formula_num (src : List Char) (k : Nat) (v : Int64) (rest : List Char) :
    formula src (k + 1) ('\x7b' :: '"' :: ("number".toList ++ '"' :: ':' ::
      ((toString v.toInt).toList ++ '\x7d' :: rest))) = .ok (.num v) rest := by
  have hkind : Kind.ofName? "number" = some .num := by decide
  rw [formula]
  simp (disch := decide) only [space_cons, variantKey_plain, colon_cons, hkind,
    int64Value_written, Except.map, Decoded.ofScan, closeObject_ok]

/-- A node takes two levels, its tag's object and its body's, and is read through the body's
fields. -/
theorem formula_node (src : List Char) {name : String} (hname : name.toList.all Plain)
    {shape : Shape} (hkind : Kind.ofName? name = some (.node shape)) (k : Nat) (body : List Char) :
    formula src (k + 2) ('\x7b' :: '"' :: (name.toList ++ '"' :: ':' :: '\x7b' :: body)) =
      closeObject src (shape.finish
        (recordBody src shape.fields shape.expected (fieldOf src shape k) ('\x7b' :: body))) := by
  rw [formula]
  simp (disch := decide) only [space_cons, variantKey_plain src hname, hkind, colon_cons]
  rfl

theorem fieldOf_tree (src : List Char) {shape : Shape} {k i : Nat}
    (hi : shape.operators = none ∨ i ≠ 0) {s rest : List Char} {e : Formula}
    (h : formula src k s = .ok e rest) : fieldOf src shape k i s = .ok (.tree e) rest := by
  unfold fieldOf
  split <;> simp_all [Decoded.map]

theorem fieldOf_op (src : List Char) {shape : Shape} {names : List String}
    (hops : shape.operators = some names) {name : String} (hname : name.toList.all Plain)
    (hmem : name ∈ names) (k : Nat) (rest : List Char) :
    fieldOf src shape k 0 ('"' :: (name.toList ++ '"' :: rest)) = .ok (.op name) rest := by
  simp [fieldOf, hops, unitVariant_plain src hname hmem, Decoded.map]

theorem Shape.finish_eq_ok {shape : Shape} {x : Decoded (List Slot)} {e : Formula} {r : List Char}
    (h : shape.finish x = .ok e r) : ∃ slots, x = .ok slots r ∧ shape.build slots = some e := by
  unfold Shape.finish at h
  split at h
  · split at h
    · cases h
      exact ⟨_, rfl, by assumption⟩
    · cases h
  · cases h

theorem fieldOf_eq_tree {src : List Char} {shape : Shape} {k i : Nat} {s : List Char} {f : Formula}
    {r : List Char} (h : fieldOf src shape k i s = .ok (.tree f) r) :
    formula src k s = .ok f r := by
  unfold fieldOf at h
  split at h
  · split at h
    · obtain ⟨_, -, hb⟩ := Decoded.map_eq_ok.1 h
      cases hb
    · obtain ⟨_, hs, hb⟩ := Decoded.map_eq_ok.1 h
      cases hb
      exact hs
  · obtain ⟨_, hs, hb⟩ := Decoded.map_eq_ok.1 h
    cases hb
    exact hs

theorem closeObject_eq_ok {src : List Char} {x : Decoded Formula} {e : Formula} {r : List Char}
    (h : closeObject src x = .ok e r) : ∃ r', x = .ok e r' := by
  unfold closeObject at h
  split at h
  · cases h
  · split at h
    · cases h
      exact ⟨_, rfl⟩
    · cases h

/-- What a successful read returns: the variable, a literal after at least one level, or a node
two levels up whose subformulas were read with the levels left. -/
theorem formula_eq_ok {src : List Char} {d : Nat} {s : List Char} {e : Formula} {r : List Char}
    (h : formula src d s = .ok e r) :
    e = .var ∨ (∃ v, e = .num v ∧ 1 ≤ d) ∨
      ∃ (k : Nat) (shape : Shape) (slots : List Slot), d = k + 2 ∧ shape.build slots = some e ∧
        ∀ f, Slot.tree f ∈ slots → ∃ s' r', formula src k s' = .ok f r' := by
  rw [formula] at h
  split at h
  · left
    repeat' split at h
    all_goals cases h
    rfl
  · split at h
    · cases h
    split at h
    · cases h
    split at h
    · cases h
    split at h
    · cases h
    obtain ⟨r', h⟩ := closeObject_eq_ok h
    split at h
    · obtain ⟨_, -, hb⟩ := Decoded.ofScan_map_eq_ok h
      cases hb
      exact .inl rfl
    · obtain ⟨⟨v, _⟩, -, hb⟩ := Decoded.ofScan_map_eq_ok h
      cases hb
      exact .inr (.inl ⟨v, rfl, by omega⟩)
    · right; right
      split at h
      · cases h
      split at h
      · split at h
        · cases h
        · rename_i shape _ _ _ _ _ _ _ k _
          dsimp only at h
          obtain ⟨slots, hbody, hbuild⟩ := Shape.finish_eq_ok h
          refine ⟨k, shape, slots, rfl, hbuild, fun f hf => ?_⟩
          obtain ⟨i, s', r₁, hi⟩ := recordBody_mem hbody (.tree f) hf
          exact ⟨s', r₁, fieldOf_eq_tree hi⟩
      · cases h
  all_goals cases h

theorem Shape.jsonDepth_build {shape : Shape} {slots : List Slot} {e : Formula} {k : Nat}
    (h : shape.build slots = some e) (hsub : ∀ f, Slot.tree f ∈ slots → f.jsonDepth ≤ k) :
    e.jsonDepth ≤ k + 2 := by
  unfold Shape.build at h
  split at h
  · cases h
    simpa [Formula.jsonDepth] using hsub _ (by simp)
  · rename_i l r
    obtain ⟨op, -, rfl⟩ := Option.map_eq_some_iff.1 h
    have hl := hsub l (by simp)
    have hr := hsub r (by simp)
    simp only [Formula.jsonDepth]
    omega
  · rename_i c t f
    cases h
    have hc := hsub c (by simp)
    have ht := hsub t (by simp)
    have hf := hsub f (by simp)
    simp only [Formula.jsonDepth]
    omega
  · cases h

theorem jsonDepth_le_of_formula (src : List Char) (d : Nat) :
    ∀ s e r, formula src d s = .ok e r → e.jsonDepth ≤ d := by
  induction d using Nat.strongRecOn with
  | _ d ih =>
    intro s e r h
    rcases formula_eq_ok h with rfl | ⟨v, rfl, hd⟩ | ⟨k, shape, slots, rfl, hbuild, hslots⟩
    · simp [Formula.jsonDepth]
    · simpa [Formula.jsonDepth] using hd
    · refine Shape.jsonDepth_build hbuild fun f hf => ?_
      obtain ⟨s', r', h'⟩ := hslots f hf
      exact ih k (by omega) s' f r' h'

theorem whole_eq_ok {α : Type} {read : List Char → List Char → Decoded α} {text : String} {v : α}
    (h : whole read text = .ok v) : ∃ r, read text.toList text.toList = .ok v r := by
  unfold whole at h
  dsimp only at h
  split at h
  · cases h
  · split at h
    · cases h
      exact ⟨_, by assumption⟩
    · cases h

end Tree

namespace Formula

open PluralForms.Tree

/-- The written document of `e`, followed by any text, is read back as `e` with any budget of at
least `e.jsonDepth` levels. -/
theorem formula_write (src : List Char) (e : Formula) :
    ∀ d rest, e.jsonDepth ≤ d →
      Tree.formula src d ((write e.toJson).toList ++ rest) = .ok e rest := by
  induction e with
  | var =>
    intro d rest _
    rw [write_var_toList, List.cons_append, List.append_assoc, List.singleton_append, formula_var]
  | num v =>
    intro d rest hd
    obtain ⟨k, rfl⟩ : ∃ k, d = k + 1 := ⟨d - 1, by simp [jsonDepth] at hd; omega⟩
    simp only [write_num_toList, List.cons_append, List.append_assoc]
    exact formula_num src k v rest
  | not e ih =>
    intro d rest hd
    obtain ⟨k, rfl⟩ : ∃ k, d = k + 2 := ⟨d - 2, by simp [jsonDepth] at hd; omega⟩
    have hk : e.jsonDepth ≤ k := by simp [jsonDepth] at hd; omega
    simp only [write_not_toList, List.cons_append, List.append_assoc, List.nil_append]
    rw [formula_node src (by decide) (by decide : Kind.ofName? "unary" = some (.node .unary)),
      show Shape.unary.fields = ["op", "operand"] from rfl,
      recordBody_two (by decide) (by decide) (by decide) (by decide)
        (fieldOf_op src rfl (by decide) (by decide) k _)
        (fieldOf_tree src (.inr (by decide)) (ih k _ hk))]
    rfl
  | binary op l r ihl ihr =>
    intro d rest hd
    obtain ⟨k, rfl⟩ : ∃ k, d = k + 2 := ⟨d - 2, by simp [jsonDepth] at hd; omega⟩
    have hl : l.jsonDepth ≤ k := by simp [jsonDepth] at hd; omega
    have hr : r.jsonDepth ≤ k := by simp [jsonDepth] at hd; omega
    simp only [write_binary_toList, List.cons_append, List.append_assoc, List.nil_append]
    rw [formula_node src (by decide) (by decide : Kind.ofName? "binary" = some (.node .binary)),
      show Shape.binary.fields = ["op", "lhs", "rhs"] from rfl,
      recordBody_three (by decide) (by decide) (by decide) (by decide) (by decide) (by decide)
        (fieldOf_op src rfl (BinOp.name_plain op) (BinOp.name_mem op) k _)
        (fieldOf_tree src (.inr (by decide)) (ihl k _ hl))
        (fieldOf_tree src (.inr (by decide)) (ihr k _ hr))]
    simp [Shape.finish, Shape.build, BinOp.ofName?_name, closeObject_ok]
  | ternary c t f ihc iht ihf =>
    intro d rest hd
    obtain ⟨k, rfl⟩ : ∃ k, d = k + 2 := ⟨d - 2, by simp [jsonDepth] at hd; omega⟩
    have hc : c.jsonDepth ≤ k := by simp [jsonDepth] at hd; omega
    have ht : t.jsonDepth ≤ k := by simp [jsonDepth] at hd; omega
    have hf : f.jsonDepth ≤ k := by simp [jsonDepth] at hd; omega
    simp only [write_ternary_toList, List.cons_append, List.append_assoc, List.nil_append]
    rw [formula_node src (by decide) (by decide : Kind.ofName? "ternary" = some (.node .ternary)),
      show Shape.ternary.fields = ["condition", "if_true", "if_false"] from rfl,
      recordBody_three (by decide) (by decide) (by decide) (by decide) (by decide) (by decide)
        (fieldOf_tree src (.inl rfl) (ihc k _ hc))
        (fieldOf_tree src (.inl rfl) (iht k _ ht))
        (fieldOf_tree src (.inl rfl) (ihf k _ hf))]
    rfl

/-- The document of a formula reads back as the formula exactly when it nests no deeper than
the reader allows. -/
theorem ofJsonText_write_iff (e : Formula) :
    ofJsonText (write e.toJson) = .ok e ↔ e.jsonDepth ≤ Tree.depthLimit := by
  constructor
  · intro h
    obtain ⟨r, hr⟩ := Tree.whole_eq_ok h
    exact Tree.jsonDepth_le_of_formula _ _ _ _ _ hr
  · intro hd
    have h := formula_write (write e.toJson).toList e Tree.depthLimit [] hd
    rw [List.append_nil] at h
    simp [ofJsonText, Tree.whole, h, space, skipSpace]

section Accepted

theorem opHeight_le_jsonDepth (e : Formula) : 2 * e.opHeight ≤ e.jsonDepth := by
  induction e with
  | num _ | var => simp [opHeight, jsonDepth]
  | not e ih => simp only [opHeight, jsonDepth]; omega
  | binary _ l r ihl ihr => simp only [opHeight, jsonDepth]; omega
  | ternary c t f ihc iht ihf => simp only [opHeight, jsonDepth]; omega

theorem jsonDepth_le_opHeight (e : Formula) : e.jsonDepth ≤ 2 * e.opHeight + 1 := by
  induction e with
  | num _ | var => simp [opHeight, jsonDepth]
  | not e ih => simp only [opHeight, jsonDepth]; omega
  | binary _ l r ihl ihr => simp only [opHeight, jsonDepth]; omega
  | ternary c t f ihc iht ihf => simp only [opHeight, jsonDepth]; omega

theorem jsonDepth_chainOf (op : BinOp) (k : Nat) (x : Formula) :
    (chainOf op k x).jsonDepth = x.jsonDepth + 2 * k := by
  induction k with
  | zero => rfl
  | succ k ih =>
    simp only [chainOf, jsonDepth, ih]
    omega

/-- A tree read from a formula reloads from its document exactly when the document nests at
most 127 objects, which it always does when the limit was at most 3 levels: an accepted tree is
at most `3 L ^ 2 + 4 L + 1` operators tall, and each operator takes two of the reader's levels. -/
theorem ofJsonText_write_of_read {limits : Limits} {text : String} {e : Formula}
    (h : read limits text = .ok e) :
    (ofJsonText (write e.toJson) = .ok e ↔ e.jsonDepth ≤ Tree.depthLimit) ∧
      (limits.maxDepth ≤ 3 → ofJsonText (write e.toJson) = .ok e) := by
  refine ⟨ofJsonText_write_iff e, fun hL => ?_⟩
  obtain ⟨r, hr, -⟩ := read_eq_ok.1 h
  have hheight := opHeight_le_of_outcome hr
  have hsq : limits.maxDepth ^ 2 ≤ 3 ^ 2 := Nat.pow_le_pow_left hL 2
  have hdepth := jsonDepth_le_opHeight e
  rw [ofJsonText_write_iff, Tree.depthLimit]
  omega

theorem ofJsonText_write_of_read_mul :
    read ⟨3⟩ "n * n" = .ok (.binary .mul .var .var) ∧
      ofJsonText (write (binary .mul .var .var).toJson) = .ok (.binary .mul .var .var) :=
  have h : read ⟨3⟩ "n * n" = .ok (.binary .mul .var .var) := by decide +kernel
  ⟨h, (ofJsonText_write_of_read h).2 (by decide)⟩

/-- The bound of 3 levels is exact: with a limit of 4 levels or more, the tallest formula the
limit accepts has a document too deep to reload. -/
theorem exists_read_document_too_deep {limits : Limits} (hL : 4 ≤ limits.maxDepth) :
    ∃ e, read limits e.render = .ok e ∧ ofJsonText (write e.toJson) ≠ .ok e := by
  obtain ⟨L⟩ := limits
  simp only at hL
  obtain ⟨m, rfl⟩ : ∃ m, L = m + 1 := ⟨L - 1, by omega⟩
  refine ⟨tallest (m + 1), read_tallest m, ?_⟩
  have hdepth := opHeight_le_jsonDepth (tallest (m + 1))
  have hsq : 4 ^ 2 ≤ (m + 1) ^ 2 := Nat.pow_le_pow_left hL 2
  rw [opHeight_tallest, condHeight_closed] at hdepth
  rw [Ne, ofJsonText_write_iff, Tree.depthLimit]
  omega

/-- With the default limit of 64 levels, `n * n * … * n` with 64 operators is accepted, but its
document nests 128 objects deep and does not reload. -/
theorem chain_document_too_deep :
    read {} (chainOf .mul 64 .var).render = .ok (chainOf .mul 64 .var) ∧
      ofJsonText (write (chainOf .mul 64 .var).toJson) ≠ .ok (chainOf .mul 64 .var) := by
  constructor
  · rw [read_render _ (by simp [literals_chainOf, literals]), nest_chainOf (by decide) 63]
    rfl
  · rw [Ne, ofJsonText_write_iff, jsonDepth_chainOf]
    decide

end Accepted

end Formula

end PluralForms
