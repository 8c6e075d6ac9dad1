import PluralForms.Rule.Basic
import PluralForms.Formula.Read
import PluralForms.Json.Write
import PluralForms.Report.Render

/-!
# What the commands print

* An *outcome* is the result of classifying one number: the index of its plural form, or the
  reason there is none. Outcomes are printed as lines or as a JSON array.
* The table lists outcomes in a grid with a box around it; an index that names no form is marked
  `(out of range)`, and with colour on it is yellow and errors are red.
* Log lines report the loaded rule (at debug level) and every evaluation (at trace level). They
  carry a timestamp, the level, where they come from, a message and named fields, and are always
  coloured.
* A formula that cannot be read is reported with the source and the place of the mistake.
-/

namespace PluralForms

namespace Program

open Text Report

/-- The result of classifying one number. -/
inductive Outcome where
  | index (n : Int64) (index : Int64)
  | error (n : Int64) (message : String)
  deriving DecidableEq, Repr

namespace Outcome

def isError : Outcome → Bool
  | .error _ _ => true
  | .index _ _ => false

def toJson : Outcome → Json
  | .index n i => .object [("n", Json.int n.toInt), ("index", Json.int i.toInt)]
  | .error n m => .object [("n", Json.int n.toInt), ("error", .string m)]

end Outcome

def outcomesJson (os : List Outcome) : String :=
  Json.pretty 0 (.array (os.map Outcome.toJson))

/-- The columns a table cell takes: control characters take one each. -/
def cellWidth (s : String) : Nat :=
  s.toList.foldl (fun acc c => acc + (if isControl c then 1 else charWidth c)) 0

def padCell (s : String) (width : Nat) : String :=
  s ++ String.ofList (List.replicate (width - cellWidth s) ' ')

/-- A grid of two columns with a header, in a box; the header is ruled off with a double line. -/
def grid (header : String × String) (rows : List (String × String)) : String :=
  let all := header :: rows
  let w1 := all.foldl (fun w r => max w (cellWidth r.1)) 0
  let w2 := all.foldl (fun w r => max w (cellWidth r.2)) 0
  let inner := (w1 + 2) + 1 + (w2 + 2)
  let line (l : String) (c : Char) (r : String) := l ++ String.ofList (List.replicate inner c) ++ r
  let row (r : String × String) := "│ " ++ padCell r.1 w1 ++ "   " ++ padCell r.2 w2 ++ " │"
  "\n".intercalate
    ([line "┌" '─' "┐", row header, line "╞" '═' "╡"] ++ rows.map row ++ [line "└" '─' "┘"])

def tinted (code : String) (s : String) : String :=
  "\x1b[" ++ code ++ "m" ++ s ++ "\x1b[39m"

/-- Whether an index names one of `count` forms; the table marks every other index. -/
def inRange (count : Nat) (i : Int64) : Bool :=
  decide (0 ≤ i.toInt ∧ i.toInt < count)

def outcomeTable (count : Nat) (colored : Bool) (os : List Outcome) : String :=
  let tint (code s : String) := if colored then tinted code s else s
  grid ("n", "Index") (os.map fun
    | .index n i =>
      (toString n.toInt,
        if inRange count i then toString i.toInt
        else tint "33" (toString i.toInt ++ " (out of range)"))
    | .error n m => (toString n.toInt, tint "31" m))

/-- How much is logged. -/
inductive LogLevel where
  | warn
  | info
  | debug
  | trace
  deriving DecidableEq, Repr

def LogLevel.ofVerbosity : Nat → LogLevel
  | 0 => .warn
  | 1 => .info
  | 2 => .debug
  | _ => .trace

def LogLevel.debugOn : LogLevel → Bool
  | .debug | .trace => true
  | _ => false

def LogLevel.traceOn : LogLevel → Bool
  | .trace => true
  | _ => false

/-- A log line: time, level, origin, message and named fields. -/
def logLine (time level origin message : String) (fields : List (String × String)) : String :=
  "\x1b[2m" ++ time ++ "\x1b[0m " ++ level ++ " \x1b[2m" ++ origin ++ "\x1b[0m\x1b[2m:\x1b[0m " ++
    message ++
    String.join (fields.map fun (k, v) => " \x1b[3m" ++ k ++ "\x1b[0m\x1b[2m=\x1b[0m" ++ v) ++ "\n"

def loadedLine (time : String) (r : Rule) : String :=
  logLine time "\x1b[34mDEBUG\x1b[0m" "plural::commands::rule_source" "loaded plural rule"
    [("plural_count", toString r.count), ("formula", r.root.render)]

def opName (op : BinOp) : String :=
  match op.name.toList with
  | c :: rest => String.ofList (c.toUpper :: rest)
  | [] => ""

def resultText : Except EvalError Int64 → String
  | .ok v => "Ok(" ++ toString v.toInt ++ ")"
  | .error (.divisionByZero op) => "Err(DivisionByZero \x7b op: " ++ opName op ++ " \x7d)"
  | .error (.indexOutOfRange i c) =>
    "Err(IndexOutOfRange \x7b index: " ++ toString i.toInt ++ ", plural_count: " ++ toString c ++
      " \x7d)"

def evaluatedLine (time : String) (n : Int64) (r : Except EvalError Int64) : String :=
  logLine time "\x1b[35mTRACE\x1b[0m" "plural::output" "evaluated plural rule"
    [("n", toString n.toInt), ("result", resultText r)]

/-- The byte lengths of the lines of a text, without their breaks: lines end at line feeds, a
carriage return just before a line feed is part of the break, a final line feed starts no new
line, and a carriage return that ends the text stays on its line. -/
def lineLengths (s : List Char) : List Nat :=
  let pieces := s.splitOn '\n'
  let ended := pieces.dropLast.map fun p => if p.getLast? = some '\r' then p.dropLast else p
  let last := pieces.getLast?.getD []
  (ended ++ if last = [] then [] else [last]).map utf8Length

/-- The byte offset of a line and column (both from 1) of a text, taken as the lengths of the
lines before it, one byte for each break, and the column; at most the length of the text. -/
def offsetOf (text : String) (line column : Nat) : Nat :=
  let s := text.toList
  let before := ((lineLengths s).take (line - 1)).foldl (fun acc n => acc + n + 1) 0
  min (before + (column - 1)) (utf8Length s)

/-- The report for a formula or header that could not be read; `name` names the source. -/
def parseReport (name text : String) : ParseError → Diagnostic
  | .malformed line column detail =>
    { code := some "plural::syntax", message := "syntax error: " ++ detail.text, causes := [],
      snippet := some { name, source := text, offset := offsetOf text line column, length := 1,
                        label := "error here" },
      help := none }
  | .nestingTooDeep m =>
    { code := some "plural::syntax",
      message := "formula nesting exceeds the maximum depth of " ++ toString m, causes := [],
      snippet := some { name, source := text, offset := 0, length := utf8Length text.toList,
                        label := "error here" },
      help := some "raise the limit with --max-depth" }

end Program

end PluralForms
