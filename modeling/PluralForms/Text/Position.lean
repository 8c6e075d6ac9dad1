/-!
# Blanks and positions in formula text

Formula and header text may hold ASCII whitespace between tokens: space, tab, line feed, form
feed and carriage return (the vertical tab is not whitespace here, nor is any non-ASCII space).
A place in the text is reported as a line and a column: the line is one more than the number
of line feeds before it, and the column counts UTF-8 bytes from the start of that line, from 1.
-/

namespace PluralForms

namespace Text

def isBlank (c : Char) : Bool :=
  c = ' ' || c = '\t' || c = '\n' || c = '\x0C' || c = '\r'

def skipBlanks (s : List Char) : List Char :=
  s.dropWhile isBlank

theorem skipBlanks_suffix (s : List Char) : skipBlanks s <:+ s :=
  List.dropWhile_suffix isBlank

theorem skipBlanks_length_le (s : List Char) : (skipBlanks s).length ≤ s.length :=
  (skipBlanks_suffix s).length_le

/-- A line and a column, both counted from 1; the column counts UTF-8 bytes. -/
structure Position where
  line : Nat
  column : Nat
  deriving DecidableEq, Repr

/-- UTF-8 bytes after the last line feed of the text (all of it when there is none). -/
def bytesOnLastLine (s : List Char) : Nat :=
  s.foldl (fun acc c => if c = '\n' then 0 else acc + c.utf8Size) 0

def Position.after (consumed : List Char) : Position :=
  { line := consumed.count '\n' + 1, column := bytesOnLastLine consumed + 1 }

def consumedBefore (s rest : List Char) : List Char :=
  s.take (s.length - rest.length)

def utf8Length (s : List Char) : Nat :=
  s.foldl (fun acc c => acc + c.utf8Size) 0

end Text

end PluralForms
