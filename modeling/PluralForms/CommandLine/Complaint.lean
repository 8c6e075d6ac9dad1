import PluralForms.CommandLine.Usage

/-!
# Usage errors

What the program prints when its command line is wrong. The text is

```text
error: <what went wrong>

  tip: <a suggestion>

Usage: <usage line>

For more information, try '--help'.
```

where the suggestion and the usage line appear only when there is something to say, and the
last line names `--help` only when the command has that flag. Each kind of mistake has its own
first line; `Complaint` holds the parts and `Complaint.render` lays them out.
-/

namespace PluralForms

namespace CommandLine

/-- A usage error. -/
structure Complaint where
  message : String
  /-- Names similar to a mistyped one: what they are and the names, least similar first. -/
  similar : Option (String × List String) := none
  tips : List String := []
  usage : Option String := none
  /-- Whether the last line points at the help flag. -/
  helpHint : Bool := true
  deriving Repr

namespace Complaint

def quoted (names : List String) : String :=
  ", ".intercalate (names.map fun n => "'" ++ n ++ "'")

def similarLine : String × List String → String
  | (what, [n]) => "  tip: a similar " ++ what ++ " exists: '" ++ n ++ "'"
  | (what, names) => "  tip: some similar " ++ what ++ "s exist: " ++ quoted names

def render (e : Complaint) : String :=
  let similar := match e.similar with
    | some s => "\n\n" ++ similarLine s
    | none => ""
  let tips :=
    if e.tips.isEmpty then ""
    else (if e.similar.isNone then "\n" else "") ++ String.join (e.tips.map ("\n  tip: " ++ ·))
  let usage := match e.usage with
    | some u => "\n\n" ++ u
    | none => ""
  let close := if e.helpHint then "\n\nFor more information, try '--help'.\n" else "\n"
  "error: " ++ e.message ++ similar ++ tips ++ usage ++ close

/-- The list of accepted values that follows some messages. -/
def valuesList (title : String) (values : List String) : String :=
  if values.isEmpty then "" else "\n  [" ++ title ++ ": " ++ ", ".intercalate values ++ "]"

end Complaint

open Complaint

def Arg.choices (a : Arg) : List String :=
  match a.kind with
  | .choice names => names
  | _ => []

namespace Command

def complaint (c : Command) (message : String) : Complaint :=
  { message, helpHint := c.hasHelpFlag }

def emptyValue (c : Command) (a : Arg) : Complaint :=
  c.complaint ("a value is required for '" ++ a.text ++ "' but none was supplied" ++
    valuesList "possible values" a.choices)

def invalidChoice (c : Command) (a : Arg) (value : String) (similar : Option String) :
    Complaint :=
  let head := if value.isEmpty then
      "a value is required for '" ++ a.text ++ "' but none was supplied"
    else "invalid value '" ++ value ++ "' for '" ++ a.text ++ "'"
  { c.complaint (head ++ valuesList "possible values" a.choices) with
    similar := similar.map fun s => ("value", [s]) }

def invalidValue (c : Command) (a : Arg) (value reason : String) : Complaint :=
  c.complaint ("invalid value '" ++ value ++ "' for '" ++ a.text ++ "': " ++ reason)

def givenTwice (c : Command) (a : Arg) : Complaint :=
  { c.complaint ("the argument '" ++ a.text ++ "' cannot be used multiple times") with
    usage := some (c.usageLine []) }

def conflict (c : Command) (a : Arg) (others : List String) (usage : String) : Complaint :=
  let tail := match others with
    | [o] => " '" ++ o ++ "'"
    | os => ":" ++ String.join (os.map ("\n  " ++ ·))
  { c.complaint ("the argument '" ++ a.text ++ "' cannot be used with" ++ tail) with
    usage := some usage }

def unknownArgument (c : Command) (word : String) (similar : Option String)
    (tips : List String) (usage : String) : Complaint :=
  { c.complaint ("unexpected argument '" ++ word ++ "' found") with
    similar := similar.map fun s => ("argument", [s]), tips, usage := some usage }

/-- The tip for a word that was perhaps meant as a value. -/
def asValueTip (word : String) : String :=
  "to pass '" ++ word ++ "' as a value, use '-- " ++ word ++ "'"

def subcommandAfterEscape (c : Command) (word : String) : Complaint :=
  { c.complaint ("unexpected argument '" ++ word ++ "' found") with
    tips := ["subcommand '" ++ word ++ "' exists; to use it, remove the '--' before it"],
    usage := some (c.usageLine []) }

def unknownSubcommand (c : Command) (word : String) (similar : List String) (tips : List String) :
    Complaint :=
  { c.complaint ("unrecognized subcommand '" ++ word ++ "'") with
    similar := if similar.isEmpty then none else some ("subcommand", similar), tips,
    usage := some (c.usageLine []) }

def attachedValue (c : Command) (a : Arg) (value : String) (used : List String) : Complaint :=
  { c.complaint ("unexpected value '" ++ value ++ "' for '" ++ a.text ++
      "' found; no more were expected") with
    usage := some (c.usageLine used) }

def missing (c : Command) (items : List String) (used : List String) : Complaint :=
  { c.complaint ("the following required arguments were not provided:" ++
      String.join (items.map ("\n  " ++ ·))) with
    usage := some (c.usageLine used) }

def missingSubcommand (c : Command) : Complaint :=
  { c.complaint ("'" ++ c.usageName ++ "' requires a subcommand but one was not provided" ++
      valuesList "subcommands" c.subcommands) with
    usage := some (c.usageLine []) }

end Command

end CommandLine

end PluralForms
