import PluralForms.Text.Width
import PluralForms.Text.Position
import PluralForms.Unicode.LineBreak

/-!
# Filling text to a width

Breaks a message into lines no wider than a given width, the way terminal reports lay out their
text:

* the text is cut into words where the Unicode line breaking rules allow a break
  (`Unicode.breakFlags`): after spaces, between ideographs, after a solidus or closing bracket
  before a letter, and so on; a word keeps the spaces at its end, and spaces at the start of a
  line make a word of their own with no letters;
* those rules are not followed after a hyphen-minus or a soft hyphen; instead a word may be cut
  after a hyphen that stands between two letters or numbers;
* ANSI escape sequences take no room and do not change where the breaks are;
* a word wider than a whole line is cut into pieces that fit;
* lines are filled greedily: a word goes on the current line when it fits (its trailing spaces
  need not), and starts a new line otherwise;
* the first line starts with `initial` and the others with `subsequent`, and the widths of
  these prefixes count against the line width.

Explicit line feeds in the text end lines too. Widths are display widths (`Text.visibleWidth`).
-/

namespace PluralForms

namespace Text

/-- A word of a line being filled: its text, the spaces after it, and what is written after it
when a line ends there. -/
structure Piece where
  text : List Char
  spaces : Nat
  penalty : List Char
  deriving Repr

def Piece.width (p : Piece) : Nat := visibleWidth p.text

/-- The visible characters of a line, each with the escape sequences right before it, and the
escape sequences after the last one; `pending` holds the escape sequences read since the last
visible character. -/
def units (pending : List Char) : List Char → List (List Char × Char) × List Char
  | [] => ([], pending)
  | c :: rest =>
    if c = '\x1b' then
      let after := (skipEscape rest).2
      units (pending ++ c :: rest.take (rest.length - after.length)) after
    else
      let r := units [] rest
      ((pending, c) :: r.1, r.2)
termination_by s => s.length
decreasing_by
  all_goals simp only [List.length_cons]
  · have := skipEscape_length rest
    omega
  · omega

/-- Whether a line may be cut before each of its visible characters: where the line breaking
rules allow it, except right after a hyphen-minus or a soft hyphen. Cuts after hyphens are left
to `splitWord`, and soft hyphens are never cut at. -/
def cutFlags (cs : List Char) : List Bool :=
  let flags := Unicode.breakFlags (cs.map Unicode.lineClass)
  (flags.zip (none :: cs.map some)).map fun (f, p) => f && p != some '-' && p != some '\xAD'

/-- Groups the units of a line into the texts between cuts. `cur` is the text since the last
cut, last character first. -/
def segments (tail : List Char) (cur : List Char) :
    List ((List Char × Char) × Bool) → List (List Char)
  | [] => [(tail.reverse ++ cur).reverse]
  | ((esc, c), cut) :: rest =>
    if cut then cur.reverse :: segments tail (c :: esc.reverse) rest
    else segments tail (c :: esc.reverse ++ cur) rest

/-- A word of a line: the text of a segment without the spaces at its end, which it keeps
apart. -/
def Piece.ofSegment (s : List Char) : Piece :=
  let text := (s.reverse.dropWhile (· = ' ')).reverse
  { text, spaces := s.length - text.length, penalty := [] }

/-- Cuts a line into words at its break opportunities; every word keeps the spaces after it,
and the escape sequences after the last visible character go with the last word. -/
def words (line : List Char) : List Piece :=
  if line.isEmpty then []
  else
    let (us, tail) := units [] line
    (segments tail [] (us.zip (cutFlags (us.map (·.2))))).map Piece.ofSegment

/-- Letters and numbers, between which a hyphen may end a line. -/
def isWordChar (c : Char) : Bool :=
  Unicode.alphanumeric.contains c.toNat

/-- Cuts a word after every hyphen that stands between two word characters; `before` is the
character before the text. The pieces before a cut have no spaces. -/
def cutAtHyphens (before : Option Char) (acc : List Char) : List Char → List (List Char)
  | [] => [acc.reverse]
  | c :: rest =>
    let cut := c = '-' && (before.map isWordChar).getD false &&
      ((rest.head?).map isWordChar).getD false
    if cut then ('-' :: acc).reverse :: cutAtHyphens (some c) [] rest
    else cutAtHyphens (some c) (c :: acc) rest

/-- A word split at its hyphens: the last piece keeps the word's spaces. -/
def splitWord (p : Piece) : List Piece :=
  let parts := cutAtHyphens none [] p.text
  let n := parts.length
  (parts.zipIdx).map fun (t, i) =>
    if i + 1 = n then { p with text := t } else { text := t, spaces := 0, penalty := [] }

/-- Cuts a text into pieces no wider than `limit` (a single character wider than the limit
stands alone). ANSI sequences travel with the character before them and take no width. `cur`
holds the current piece, last character first, and `used` its width. -/
def breakText (limit : Nat) (cur : List Char) (used : Nat) : List Char → List (List Char)
  | [] => [cur.reverse]
  | c :: rest =>
    if c = '\x1b' then
      let after := (skipEscape rest).2
      breakText limit ((rest.take (rest.length - after.length)).reverse ++ c :: cur) used after
    else
      let w := charWidth c
      if used > 0 && used + w > limit then cur.reverse :: breakText limit [c] w rest
      else breakText limit (c :: cur) (used + w) rest
termination_by s => s.length
decreasing_by
  all_goals simp only [List.length_cons]
  · have := skipEscape_length rest
    omega
  all_goals omega

/-- A piece wider than `limit` cut into pieces that fit; the last one keeps the spaces and the
line-end text. -/
def breakPiece (limit : Nat) (p : Piece) : List Piece :=
  if p.width > limit then
    let parts := breakText limit [] 0 p.text
    let n := parts.length
    (parts.zipIdx).map fun (t, i) =>
      if i + 1 = n then { p with text := t } else { text := t, spaces := 0, penalty := [] }
  else [p]

/-- Fills pieces greedily into lines: `first` and `rest` are the widths of the first line and of
the others, `done` counts the lines already closed, `cur` holds the current line's pieces (last
first) and `used` their width with spaces. -/
def firstFit (first rest : Nat) (done : Nat) (cur : List Piece) (used : Nat) :
    List Piece → List (List Piece)
  | [] => [cur.reverse]
  | p :: ps =>
    let limit := if done = 0 then first else rest
    if used + p.width + visibleWidth p.penalty > limit && !cur.isEmpty then
      cur.reverse :: firstFit first rest (done + 1) [p] (p.width + p.spaces) ps
    else firstFit first rest done (p :: cur) (used + p.width + p.spaces) ps

/-- The text of a filled line: its pieces with the spaces between them, and the line-end text
of the last piece. -/
def lineText (ps : List Piece) : List Char :=
  match ps.getLast? with
  | none => []
  | some last =>
    let body := ps.dropLast.foldr (fun p acc => p.text ++ List.replicate p.spaces ' ' ++ acc) []
    body ++ last.text ++ last.penalty

/-- How a text is filled: the width of the lines and the texts that start them. -/
structure Fill where
  width : Nat
  initial : String
  subsequent : String

/-- Fills one line of a text (no line feed in it); `started` tells whether lines were already
written, which decides the prefix. -/
def Fill.line (o : Fill) (started : Bool) (line : List Char) : List String :=
  let indent := if started then o.subsequent else o.initial
  if utf8Length line < o.width && indent.isEmpty then
    [String.ofList (line.reverse.dropWhile (· = ' ')).reverse]
  else
    let firstWidth := o.width - visibleWidth o.initial.toList
    let restWidth := o.width - visibleWidth o.subsequent.toList
    let pieces := ((words line).flatMap splitWord).flatMap (breakPiece restWidth)
    let pieces := if o.initial.isEmpty then pieces
      else { text := [], spaces := 0, penalty := [] } :: pieces
    if pieces.isEmpty then [""]
    else
      let groups := firstFit firstWidth restWidth 0 [] 0 pieces
      (groups.zipIdx).map fun (g, i) =>
        let lead := if !started && i = 0 then o.initial
          else if started || i > 0 then o.subsequent else ""
        lead ++ String.ofList (lineText g)

def splitLines (s : List Char) : List (List Char) :=
  s.splitOn '\n'

/-- A text filled to the width, lines joined by line feeds. -/
def Fill.apply (o : Fill) (text : String) : String :=
  let chars := text.toList
  if utf8Length chars < o.width && !chars.contains '\n' && o.initial.isEmpty then
    String.ofList (chars.reverse.dropWhile (· = ' ')).reverse
  else
    let lines := (splitLines chars).foldl (fun acc l => acc ++ o.line (!acc.isEmpty) l) []
    "\n".intercalate lines

end Text

end PluralForms
