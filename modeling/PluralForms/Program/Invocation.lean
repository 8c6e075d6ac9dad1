import PluralForms.CommandLine.Parse

/-!
# What the program was asked to do

The typed reading of a valid command line: the colour choice, the verbosity, and the command
with its settings. The global options take their value from the innermost command that was given
them; counts are not added up across commands.
-/

namespace PluralForms

namespace Program

open CommandLine

/-- When to colour the output. -/
inductive ColorChoice where
  | auto
  | always
  | never
  deriving DecidableEq, Repr

/-- Where the rule comes from. -/
inductive RuleSource where
  /-- A `Plural-Forms` header value. -/
  | header (text : String)
  /-- A bare formula. -/
  | formula (text : String)
  /-- A file holding a formula tree as JSON. -/
  | tree (path : String)
  deriving DecidableEq, Repr

/-- The rule settings shared by the commands. -/
structure RuleSettings where
  source : RuleSource
  /-- The number of plural forms for a formula or a tree. -/
  count : Int64
  /-- The nesting limit for reading formulas, when not the default. -/
  maxDepth : Option Nat
  deriving DecidableEq, Repr

/-- A command with its settings. -/
inductive Task where
  /-- Classify the given numbers. -/
  | eval (rule : RuleSettings) (numbers : List Int64) (checked json : Bool)
  /-- Tabulate a range of numbers, both ends included. -/
  | table (rule : RuleSettings) (lo hi : Int64) (json : Bool)
  deriving DecidableEq, Repr

/-- A valid command line. -/
structure Invocation where
  color : ColorChoice
  /-- How many times `-v` was given. -/
  verbosity : Nat
  task : Task
  deriving DecidableEq, Repr

/-- The last value given to an argument in the innermost command that was given it. -/
def innermost (levels : List (String × Matches)) (id : String) : Option String :=
  (levels.reverse.findSome? fun (_, m) => if m.has id then (m.valuesOf id).getLast? else none)

/-- A signed value that the reader already checked; 0 stands for none. -/
def signedValue (v : Option String) : Int64 :=
  match v.map readSigned with
  | some (.ok i) => Int64.ofInt i
  | _ => 0

def ruleSettings (m : Matches) : Option RuleSettings :=
  let source :=
    if m.has "header" then (m.valuesOf "header").getLast?.map RuleSource.header
    else if m.has "formula" then (m.valuesOf "formula").getLast?.map RuleSource.formula
    else if m.has "tree" then (m.valuesOf "tree").getLast?.map RuleSource.tree
    else none
  let count := if m.has "nplurals" then signedValue (m.valuesOf "nplurals").getLast? else 2
  let maxDepth := ((m.valuesOf "max_depth").getLast?).bind fun v =>
    match readUnsigned v with
    | .ok n => some n
    | .error _ => none
  source.map fun s => { source := s, count, maxDepth }

/-- The typed reading of the matches of a valid command line. -/
def Invocation.ofLevels (levels : List (String × Matches)) : Option Invocation :=
  let color := match innermost levels "color" with
    | some "always" => ColorChoice.always
    | some "never" => .never
    | _ => .auto
  let verbosity := ((innermost levels "verbose").bind String.toNat?).getD 0
  let task : Option Task := match levels with
    | [_, ("eval", m)] =>
      (ruleSettings m).map fun r =>
        .eval r ((m.valuesOf "numbers").map fun v => signedValue (some v)) (m.has "checked")
          (m.has "json")
    | [_, ("table", m)] =>
      (ruleSettings m).map fun r =>
        .table r (if m.has "from" then signedValue (m.valuesOf "from").getLast? else 0)
          (if m.has "to" then signedValue (m.valuesOf "to").getLast? else 30) (m.has "json")
    | _ => none
  task.map fun t => { color, verbosity, task := t }

end Program

end PluralForms
