import PluralForms.Program.Invocation
import PluralForms.Program.Output
import PluralForms.Rule.Header
import PluralForms.Tree.Read

/-!
# Running the program

`Program.run` reads the command line and carries out the command. The run is a pure function of
the arguments; the only thing it may need from outside is the contents of the tree file named by
`--tree`, so a run either ends with its transcript or asks for that file and resumes with its
contents (or with the operating system's reason for not having them).

Exit statuses: 0 on success and for help and version screens, 2 for a wrong command line, 65
when some number could not be classified, and 70 when the rule could not be loaded or the table
range was refused. A refused rule or range is reported on standard error with `Report`.
-/

namespace PluralForms

namespace Program

open CommandLine Report

/-- What a run printed, and its exit status. -/
structure Transcript where
  exitCode : Nat
  stdout : String := ""
  stderr : String := ""
  deriving DecidableEq, Repr

/-- A run of the program: finished, or waiting for the contents of a file. -/
inductive Run where
  | done (t : Transcript)
  | reading (path : String) (resume : Except String String → Transcript)

/-- The exit status of a run that classified some number without success. -/
def dataError : Nat := 65

/-- The exit status of a run that could not load its rule or refused its range. -/
def softwareError : Nat := 70

def reported (d : Diagnostic) : Transcript :=
  { exitCode := softwareError, stderr := d.render ++ "\n" }

/-- The rule described by the settings, or the report of why there is none. `file` holds the
contents of the tree file when the rule comes from one. -/
def loadRule (s : RuleSettings) (file : Except String String) : Except Diagnostic Rule :=
  let limits : Limits := match s.maxDepth with
    | some d => { maxDepth := d }
    | none => {}
  let build (f : Formula) : Except Diagnostic Rule :=
    match Rule.make s.count f with
    | .ok r => .ok r
    | .error e => .error (Diagnostic.plain e.message)
  match s.source with
  | .header text =>
    match Rule.readHeader limits text with
    | .ok r => .ok r
    | .error (.parse e) => .error (parseReport "header" text e)
    | .error (.rule e) => .error (Diagnostic.plain ("Invalid Plural-Forms header: " ++ e.message))
  | .formula text =>
    match Formula.read limits text with
    | .ok f => build f
    | .error e => .error (parseReport "formula" text e)
  | .tree path =>
    match file with
    | .error reason =>
      .error { Diagnostic.plain ("Cannot read tree file " ++ path) with causes := [reason] }
    | .ok content =>
      match Formula.ofJsonText content with
      | .ok f => build f
      | .error e =>
        .error { Diagnostic.plain ("Invalid expression tree in " ++ path) with
                 causes := [e.message] }

/-- The value of the rule at `n`: the full index when `checked`, which must name a form, and
otherwise its low 32 bits. -/
def evaluate (r : Rule) (checked : Bool) (n : Int64) : Except EvalError Int64 :=
  if checked then r.formIndex n else (r.index n).map Int32.toInt64

def outcomeOf (n : Int64) : Except EvalError Int64 → Outcome
  | .ok v => .index n v
  | .error e => .error n e.message

/-- The log lines of loading a rule and evaluating it at the numbers. -/
def logOf (time : String) (level : LogLevel) (r : Rule)
    (results : List (Int64 × Except EvalError Int64)) : String :=
  (if level.debugOn then loadedLine time r else "") ++
    (if level.traceOn then String.join (results.map fun (n, v) => evaluatedLine time n v) else "")

def statusOf (os : List Outcome) : Nat := if os.any (·.isError) then dataError else 0

/-- `eval`: one line per number, indices on standard output and errors on standard error, or
one JSON array. -/
def evalTranscript (time : String) (level : LogLevel) (r : Rule) (numbers : List Int64)
    (checked json : Bool) : Transcript :=
  let results := numbers.map fun n => (n, evaluate r checked n)
  let outcomes := results.map fun (n, v) => outcomeOf n v
  let log := logOf time level r results
  if json then
    { exitCode := statusOf outcomes, stdout := outcomesJson outcomes ++ "\n", stderr := log }
  else
    let out := String.join (outcomes.map fun
      | .index n i => toString n.toInt ++ ": " ++ toString i.toInt ++ "\n"
      | .error _ _ => "")
    let err := String.join (outcomes.map fun
      | .error n m => toString n.toInt ++ ": evaluation error: " ++ m ++ "\n"
      | .index _ _ => "")
    { exitCode := statusOf outcomes, stdout := out, stderr := log ++ err }

def maxRows : Nat := 100000

/-- The report refusing a table range, if it is refused: reversed, or too long. -/
def rangeProblem (lo hi : Int64) : Option Diagnostic :=
  let l := toString lo.toInt
  let h := toString hi.toInt
  if lo.toInt > hi.toInt then
    some (Diagnostic.plain ("--from (" ++ l ++ ") must not be greater than --to (" ++ h ++ ")"))
  else if hi.toInt - lo.toInt ≥ maxRows then
    some { Diagnostic.plain ("range " ++ l ++ "..=" ++ h ++ " exceeds the " ++ toString maxRows ++
             " row limit") with
           help := some "narrow --from/--to or run several smaller tables" }
  else none

/-- The numbers from `lo` to `hi`, both included. -/
def rangeOf (lo hi : Int64) : List Int64 :=
  (List.range (hi.toInt - lo.toInt + 1).toNat).map fun (k : Nat) =>
    Int64.ofInt (lo.toInt + (k : Int))

/-- `table`: a grid of outcomes, or one JSON array; indices are not checked. -/
def tableTranscript (time : String) (level : LogLevel) (colored : Bool) (r : Rule)
    (lo hi : Int64) (json : Bool) : Transcript :=
  let results := (rangeOf lo hi).map fun n => (n, evaluate r false n)
  let outcomes := results.map fun (n, v) => outcomeOf n v
  let out := if json then outcomesJson outcomes else outcomeTable r.count colored outcomes
  { exitCode := statusOf outcomes, stdout := out ++ "\n", stderr := logOf time level r results }

/-- Loads the rule of the settings, reading the tree file when there is one, and continues. -/
def withRule (s : RuleSettings) (k : Rule → Transcript) : Run :=
  let finish (file : Except String String) : Transcript :=
    match loadRule s file with
    | .ok r => k r
    | .error d => reported d
  match s.source with
  | .tree path => .reading path finish
  | _ => .done (finish (.ok ""))

/-- Carries out a valid command line. -/
def perform (time : String) (inv : Invocation) : Run :=
  let level := LogLevel.ofVerbosity inv.verbosity
  match inv.task with
  | .eval s numbers checked json =>
    withRule s fun r => evalTranscript time level r numbers checked json
  | .table s lo hi json =>
    match rangeProblem lo hi with
    | some d => .done (reported d)
    | none => withRule s fun r => tableTranscript time level (inv.color = .always) r lo hi json

/-- Runs the program on its arguments; `time` is the timestamp written in log lines. -/
def run (time : String) (args : List String) : Run :=
  match program.read (args.length + 1) args with
  | .error (.show text) => .done { exitCode := 0, stdout := text }
  | .error (.fail text) => .done { exitCode := 2, stderr := text }
  | .ok levels =>
    match Invocation.ofLevels levels with
    | some inv => perform time inv
    | none => .done { exitCode := 2, stderr := program.helpText }

end Program

end PluralForms
