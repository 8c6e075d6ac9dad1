import PluralForms.Unicode.Properties

/-!
# Display width of characters

How many terminal columns a character takes: two for East Asian wide and fullwidth characters
(`Unicode.wide`), none for control characters and for the characters of `Unicode.zeroWidth`
(marks, joiners, default-ignorable characters), three for the Khmer sign beyyal, which spells
out a whole word, and one for everything else.

`Text.visibleWidth` is the width of a text in which ANSI escape sequences take no room, the way
text is measured when it is wrapped: control sequences (`ESC [` up to a final character from
`@` to `~`) and operating system commands (`ESC ]` up to a bell or `ESC \`).
-/

namespace PluralForms

namespace Text

/-- Whether a character is a control character (C0, DEL or C1). -/
def isControl (c : Char) : Bool :=
  c.toNat < 0x20 || (0x7F ≤ c.toNat && c.toNat < 0xA0)

/-- The columns a character takes; control characters take none. -/
def charWidth (c : Char) : Nat :=
  let n := c.toNat
  if isControl c then 0
  else if n < 0xA0 then 1
  else if n = 0x17D8 then 3
  else if Unicode.zeroWidth.contains n then 0
  else if Unicode.wide.contains n then 2
  else 1

/-- Skips the rest of an operating system command: up to and including a bell, or a backslash
right after an escape character; `last` is the character read before. -/
def skipCommand (last : Char) : List Char → List Char
  | [] => []
  | c :: rest => if c = '\x07' || (c = '\\' && last = '\x1b') then rest else skipCommand c rest

theorem skipCommand_length (last : Char) (s : List Char) :
    (skipCommand last s).length ≤ s.length := by
  induction s generalizing last with
  | nil => simp [skipCommand]
  | cons c rest ih =>
    unfold skipCommand
    split
    · simp
    · have := ih c
      simp only [List.length_cons]
      omega

/-- Skips an ANSI escape sequence whose escape character has just been read: if `[` follows,
everything up to and including the first character from `@` to `~`; if `]` follows, the whole
operating system command; otherwise the one character after the escape. The result is whether a
whole sequence was skipped, and the text after what was read. -/
def skipEscape : List Char → Bool × List Char
  | '[' :: rest =>
    match rest.dropWhile (fun c => !('@' ≤ c && c ≤ '~')) with
    | _ :: after => (true, after)
    | [] => (false, [])
  | ']' :: rest => (true, skipCommand ']' rest)
  | _ :: rest => (false, rest)
  | [] => (false, [])

theorem skipEscape_length (s : List Char) : (skipEscape s).2.length ≤ s.length := by
  unfold skipEscape
  split
  · rename_i rest
    split
    · rename_i x after hx
      have h : (rest.dropWhile (fun c => !('@' ≤ c && c ≤ '~'))).length ≤ rest.length :=
        (List.dropWhile_suffix _).length_le
      rw [hx] at h
      simp only [List.length_cons] at h ⊢
      omega
    · simp
  · rename_i rest
    have := skipCommand_length ']' rest
    simp only [List.length_cons]
    omega
  · simp
  · simp

/-- The columns a text takes when ANSI control sequences take none. An escape character that
does not start a whole sequence takes no column either, and the character after it is passed
over. -/
def visibleWidth : List Char → Nat
  | [] => 0
  | c :: rest =>
    if c = '\x1b' then visibleWidth (skipEscape rest).2
    else charWidth c + visibleWidth rest
termination_by s => s.length
decreasing_by
  all_goals simp only [List.length_cons]
  · have := skipEscape_length rest
    omega
  · omega

end Text

end PluralForms
