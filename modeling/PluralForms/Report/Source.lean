import PluralForms.Text.Position

/-!
# Lines around a span of source text

A report shows the lines of the source around the span it points at. Offsets are UTF-8 byte
offsets into the source.

`Report.around` finds the bytes to show: the lines of the span, up to `before` lines above it and
up to `after` lines below it. It walks the bytes once, counting a carriage return, a line feed,
or the pair of them as one line break, and reports the first byte shown, the end, the line of the
first byte (from 0) and, when no lines above are asked for, the byte column of the span's start.
A span that reaches past the end of the source by more than one byte has no surroundings.

`Report.linesOf` cuts the bytes shown into numbered lines. Here a carriage return only ends a
line when a line feed follows it; each line records its offset and its length with the line
break, and its text without it.
-/

namespace PluralForms

namespace Report

/-- Each character repeated once per byte of its UTF-8 encoding, so that list positions are byte
offsets; line breaks are single bytes. -/
def byteView (s : List Char) : List Char :=
  s.flatMap fun c => List.replicate c.utf8Size c

/-- Progress of the walk over the bytes. -/
structure Walk where
  offset : Nat := 0
  startLine : Nat := 0
  startColumn : Nat := 0
  /-- Starts of the lines kept above the span, oldest first. -/
  above : List Nat := []
  lineStart : Nat := 0
  endLines : Nat := 0
  pastSpan : Bool := false
  sawBreak : Bool := false
  deriving Repr

/-- What to show around a span. -/
structure Surroundings where
  start : Nat
  ending : Nat
  line : Nat
  column : Nat
  deriving Repr

/-- One byte of the walk; `pair` tells whether it is a carriage return with a line feed after it
(the two are taken together). The result is the new progress and whether the walk ends. -/
def Walk.step (off len before after : Nat) (w : Walk) (c : Char) (pair : Bool) : Walk × Bool :=
  let w1 : Walk × Bool :=
    if c = '\r' ∨ c = '\n' then
      let w := if pair then { w with offset := w.offset + 1 } else w
      if w.offset < off then
        let kept := w.above ++ [w.lineStart]
        let w := if kept.length > before then
            { w with startColumn := 0, above := kept.tail, startLine := w.startLine + 1 }
          else { w with startColumn := 0, above := kept }
        ({ w with lineStart := w.offset + 1 }, false)
      else if w.offset ≥ off + (len - 1) ∧ w.pastSpan then
        let w := if w.sawBreak then { w with startColumn := 0, endLines := w.endLines + 1 }
          else { w with startColumn := 0, sawBreak := true }
        if w.endLines ≥ after then ({ w with offset := w.offset + 1 }, true)
        else ({ w with lineStart := w.offset + 1 }, false)
      else ({ w with lineStart := w.offset + 1 }, false)
    else if w.offset < off then ({ w with startColumn := w.startColumn + 1 }, false)
    else (w, false)
  match w1 with
  | (w, true) => (w, true)
  | (w, false) =>
    if w.offset ≥ off + len - 1 then
      let w := { w with pastSpan := true }
      if w.endLines ≥ after then ({ w with offset := w.offset + 1 }, true)
      else ({ w with offset := w.offset + 1 }, false)
    else ({ w with offset := w.offset + 1 }, false)

/-- Walks the bytes until the surroundings are complete or the bytes run out. -/
def Walk.run (off len before after : Nat) (w : Walk) : List Char → Walk
  | [] => w
  | '\r' :: '\n' :: rest =>
    match w.step off len before after '\r' true with
    | (w', true) => w'
    | (w', false) => Walk.run off len before after w' rest
  | c :: rest =>
    match w.step off len before after c false with
    | (w', true) => w'
    | (w', false) => Walk.run off len before after w' rest

/-- The bytes to show around the span `(off, len)` of the byte view `bytes`, with up to `before`
lines above and `after` lines below. -/
def around (bytes : List Char) (off len before after : Nat) : Option Surroundings :=
  let w := Walk.run off len before after {} bytes
  if w.offset ≥ off + len - 1 then
    let start := w.above.head?.getD (if before = 0 then off else 0)
    let column := if before = 0 then w.startColumn else 0
    some { start, ending := w.offset, line := w.startLine, column }
  else none

/-- The characters of `s` whose bytes lie from `start` to `ending`. -/
def sliceBytes (s : List Char) (start ending : Nat) : List Char :=
  let rec go : Nat → List Char → List Char
    | _, [] => []
    | pos, c :: rest =>
      let next := pos + c.utf8Size
      if next ≤ start then go next rest
      else if ending < next then []
      else c :: go next rest
  go 0 s

/-- A line of shown source: its number from 1, byte offset, byte length with its line break,
and text without the break. -/
structure Line where
  number : Nat
  offset : Nat
  length : Nat
  text : List Char
  deriving Repr

/-- Progress of cutting shown bytes into lines. -/
structure Cut where
  line : Nat
  offset : Nat
  lineOffset : Nat
  /-- Text of the current line, last character first. -/
  current : List Char
  done : List Line

def Cut.close (k : Cut) : Cut :=
  let line : Line :=
    { number := k.line, offset := k.lineOffset, length := k.offset - k.lineOffset,
      text := k.current.reverse }
  { k with done := line :: k.done, current := [], lineOffset := k.offset }

def Cut.afterBreak (k : Cut) (bytes : Nat) : Cut :=
  Cut.close { k with offset := k.offset + bytes, line := k.line + 1 }

/-- After a character that stays in the line; `last` tells whether nothing follows, and
`counted` whether the end of the text was already counted as the end of a line (as it is after
a lone carriage return). -/
def Cut.afterChar (k : Cut) (c : Char) (last counted : Bool) : Cut :=
  let k := { k with offset := k.offset + c.utf8Size, current := c :: k.current }
  if last then Cut.close (if counted then k else { k with line := k.line + 1 }) else k

def Cut.run (k : Cut) : List Char → List Line
  | [] => k.done.reverse
  | '\r' :: '\n' :: rest => Cut.run (k.afterBreak 2) rest
  | '\n' :: rest => Cut.run (k.afterBreak 1) rest
  | '\r' :: rest => Cut.run (k.afterChar '\r' rest.isEmpty rest.isEmpty) rest
  | c :: rest => Cut.run (k.afterChar c rest.isEmpty false) rest

/-- The lines of shown source `s`, whose first byte is at `offset` on line `line` (from 0). -/
def linesOf (s : List Char) (line offset : Nat) : List Line :=
  Cut.run { line, offset, lineOffset := offset, current := [], done := [] } s

end Report

end PluralForms
