import PluralForms.Report.Source
import PluralForms.Text.Wrap

/-!
# Rendering error reports

A report is what the command line prints when it cannot go on: an optional code, a message, the
chain of causes, a labelled span of source text, and a help line. It is drawn with box-drawing
characters on a terminal 80 columns wide:

```text
plural::syntax

  × syntax error: unexpected character: '$'
   ╭─[formula:1:6]
 1 │ n != $
   ·      ┬
   ·      ╰── error here
   ╰────
  help: …
```

The message, the causes and the help are filled to 78 columns (`Text.Fill`). The source shows
the lines around the span, two above and two below (`Report.around`), numbered in a column as wide
as the last number. The header names the source and the line and byte column where the span
starts. A span on one line is underlined with its label hanging from the middle of the
underline; a span over several lines is drawn in a gutter left of the text, from `╭─▶` on its
first line to `├─▶` on its last, with the label below.
-/

namespace PluralForms

namespace Report

open Text

/-- A labelled span of a named source text; offset and length count UTF-8 bytes. -/
structure Snippet where
  name : String
  source : String
  offset : Nat
  length : Nat
  label : String

/-- A diagnostic report. -/
structure Diagnostic where
  code : Option String
  message : String
  causes : List String
  snippet : Option Snippet
  help : Option String

def Diagnostic.plain (message : String) : Diagnostic :=
  { code := none, message, causes := [], snippet := none, help := none }

def Line.starts (l : Line) (off : Nat) : Bool := off ≥ l.offset

def Line.ends (l : Line) (off len : Nat) : Bool :=
  off + len ≥ l.offset && off + len ≤ l.offset + l.length

def Line.holds (l : Line) (off len : Nat) : Bool :=
  off ≥ l.offset && off + len ≤ l.offset + l.length

/-- Whether the span shows on the line, under the text or in the gutter. -/
def Line.touches (l : Line) (off len : Nat) : Bool :=
  let n := if len = 0 then 1 else len
  (off ≥ l.offset && off < l.offset + l.length) ||
    (off < l.offset && off + n > l.offset + l.length) ||
    (off + n > l.offset && off + n ≤ l.offset + l.length)

/-- Whether the span shows in the gutter of the line: it touches the line without starting and
ending on it. -/
def Line.inGutter (l : Line) (off len : Nat) : Bool :=
  let n := if len = 0 then 1 else len
  l.touches off len &&
    !((off ≥ l.offset && off < l.offset + l.length) &&
      (off + n > l.offset && off + n ≤ l.offset + l.length))

/-- Whether the span passes the line without starting or ending on it. -/
def Line.passes (l : Line) (off len : Nat) : Bool :=
  off < l.offset && off + len > l.offset + l.length

/-- The columns of each character of a line of source: a tab reaches the next multiple of four,
an ANSI colour sequence takes none. -/
def columnsOf (text : List Char) : List Nat :=
  let rec go (col : Nat) (escaped : Bool) : List Char → List Nat
    | [] => []
    | c :: rest =>
      if escaped then 0 :: go col (c ≠ 'm') rest
      else if c = '\t' then (4 - col % 4) :: go (col + (4 - col % 4)) false rest
      else if c = '\x1b' then 0 :: go col true rest
      else charWidth c :: go (col + charWidth c) false rest
  go 0 false text

def charStarts (text : List Char) : List Nat :=
  let rec go (pos : Nat) : List Char → List Nat
    | [] => []
    | c :: rest => pos :: go (pos + c.utf8Size) rest
  go 0 text

/-- The columns taken by the characters that end at or before byte `index`. -/
def widthBefore (text : List Char) (index : Nat) : Nat :=
  let rec go (pos : Nat) : List Char → List Nat → Nat
    | c :: cs, w :: ws => if pos + c.utf8Size ≤ index then w + go (pos + c.utf8Size) cs ws else 0
    | _, _ => 0
  go 0 text (columnsOf text)

/-- The screen column of a byte offset on a line: an offset inside a character counts as that
character's start when `atStart`, its end otherwise; an offset past the text is one column past
its end. -/
def Line.column (l : Line) (off : Nat) (atStart : Bool) : Nat :=
  let size := utf8Length l.text
  let starts := charStarts l.text
  let raw := off - l.offset
  let index :=
    if raw < size && !starts.contains raw then
      if atStart then ((starts.filter (· ≤ raw)).getLast?).getD 0
      else ((starts.filter (· ≥ raw)).head?).getD size
    else raw
  if index > size then widthBefore l.text size + 1 else widthBefore l.text index

def printedText (text : List Char) : String :=
  String.join ((text.zip (columnsOf text)).map fun (c, w) =>
    if c = '\t' then String.ofList (List.replicate w ' ') else c.toString)

def spaces (n : Nat) : String := String.ofList (List.replicate n ' ')

def repeated (c : Char) (n : Nat) : String := String.ofList (List.replicate n c)

def numbered (width number : Nat) : String :=
  let s := toString number
  " " ++ spaces (width - s.length) ++ s ++ " │ "

def unnumbered (width : Nat) : String :=
  " " ++ spaces width ++ " · "

/-- The gutter of a source line when a span crosses several lines. -/
def gutterOf (l : Line) (off len : Nat) (hasLabel : Bool) : String :=
  if !l.inGutter off len then spaces 4
  else if l.starts off then "╭─▶ "
  else if l.ends off len then (if hasLabel then "├─▶ " else "╰─▶ ")
  else if l.passes off len then "│   "
  else spaces 4

/-- The rows drawn under a line that holds the whole span: the underline and the label. -/
def underRows (l : Line) (width off len : Nat) (label : String) : String :=
  let start := l.column off true
  let stop := if len = 0 then start + 1 else max (l.column (off + len) false) (start + 1)
  let middle := (start + stop) / 2
  let mark := if len = 0 then "▲" else "┬"
  unnumbered width ++ spaces start ++ repeated '─' (middle - start) ++ mark ++
    repeated '─' (stop - middle - 1) ++ "\n" ++
    unnumbered width ++ spaces middle ++ "╰── " ++ label ++ "\n"

def Snippet.render (sn : Snippet) : String :=
  let src := sn.source.toList
  let bytes := byteView src
  match around bytes sn.offset sn.length 2 2, around bytes sn.offset sn.length 0 0 with
  | some shown, some here =>
    let lines := linesOf (sliceBytes src shown.start shown.ending) shown.line shown.start
    let width := (toString ((lines.getLast?.map (·.number)).getD 0)).length
    let off := sn.offset
    let len := sn.length
    let gutter := lines.any fun l => !l.holds off len && l.inGutter off len
    let header := spaces (width + 2) ++ "╭─[" ++ sn.name ++ ":" ++ toString (here.line + 1) ++
      ":" ++ toString (here.column + 1) ++ "]\n"
    let body := String.join (lines.map fun l =>
      let text := numbered width l.number ++ (if gutter then gutterOf l off len true else "") ++
        printedText l.text ++ "\n"
      let under :=
        if l.touches off len && l.holds off len then underRows l width off len sn.label
        else if l.touches off len && !l.holds off len && l.ends off len && !l.starts off then
          unnumbered width ++ "╰──── " ++ sn.label ++ "\n"
        else ""
      text ++ under)
    header ++ body ++ spaces (width + 2) ++ "╰────\n"
  | _, _ => ""

def messageFill : Fill := { width := 78, initial := "  × ", subsequent := "  │ " }

/-- How a cause is filled; the last cause closes the chain. -/
def causeFill (last : Bool) : Fill :=
  if last then { width := 78, initial := "  ╰─▶ ", subsequent := "      " }
  else { width := 78, initial := "  ├─▶ ", subsequent := "  │   " }

def helpFill : Fill := { width := 78, initial := "  help: ", subsequent := "        " }

/-- The text of a report, each part ending with a line feed. -/
def Diagnostic.render (d : Diagnostic) : String :=
  let code := match d.code with
    | some c => c ++ "\n\n"
    | none => ""
  let n := d.causes.length
  let causes := String.join ((d.causes.zipIdx).map fun (c, i) =>
    (causeFill (i + 1 = n)).apply c ++ "\n")
  let snippet := match d.snippet with
    | some sn => sn.render
    | none => ""
  let help := match d.help with
    | some h => helpFill.apply h ++ "\n"
    | none => ""
  code ++ messageFill.apply d.message ++ "\n" ++ causes ++ snippet ++ help

end Report

end PluralForms
