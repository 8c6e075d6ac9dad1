import PluralForms.CommandLine.Grammar
import PluralForms.Text.Width

/-!
# Usage lines and help screens

How arguments are written in messages, usage lines and help screens.

An argument is written by its long name (or its short letter) and its value placeholder:
`--color <COLOR>`, `--verbose...` for a counter, `<NUMBERS>...` for required positional values
and `[COMMAND]...` for optional ones. A required group is written as its members between angle
brackets, separated by bars.

A usage line names the command and what must be given. The full line, used when nothing more is
known, adds `[OPTIONS]` when the command has optional options; a line that knows which arguments
were used lists those instead. Both list options first, then groups, then positional values,
and end with `<COMMAND>` when a subcommand is required.

A help screen is the command's description, its full usage line, and its subcommands, positional
arguments and options in aligned columns.
-/

namespace PluralForms

namespace CommandLine

open Text

namespace Arg

/-- The placeholder part of an argument: `required` tells whether a positional argument is
written as required. -/
def suffix (a : Arg) (required : Bool) : String :=
  if a.isPositional then
    if required && a.required then "<" ++ a.valueName ++ ">..." else "[" ++ a.valueName ++ "]..."
  else if a.action = .set then " <" ++ a.valueName ++ ">"
  else if a.action = .count then "..."
  else ""

def shown (a : Arg) (required : Bool) : String :=
  let name := match a.long, a.short with
    | some l, _ => "--" ++ l
    | none, some c => "-" ++ c.toString
    | none, none => ""
  name ++ a.suffix required

def text (a : Arg) : String := a.shown a.required

/-- The key that orders options in help listings: a short letter (lower case first), else the
long name. -/
def sortKey (a : Arg) : Nat × String :=
  match a.short with
  | some c => (a.order, c.toLower.toString ++ (if c.isLower then "0" else "1"))
  | none => (a.order, (a.long.getD a.id))

/-- The bracketed notes after an argument's help: its default and its possible values. -/
def notes (a : Arg) : List String :=
  let dflt := match a.default with
    | some d => if a.takesValue then ["[default: " ++ d ++ "]"] else []
    | none => []
  let values := match a.kind with
    | .choice names => ["[possible values: " ++ ", ".intercalate names ++ "]"]
    | _ => []
  dflt ++ values

def helpLine (a : Arg) : String := " ".intercalate (a.help :: a.notes)

end Arg

namespace Command

def groupText (c : Command) (g : Group) : String :=
  "<" ++ "|".intercalate (g.members.filterMap fun m => (c.arg? m).map (·.text)) ++ ">"

def dedup (xs : List String) : List String :=
  xs.foldl (fun acc x => if acc.contains x then acc else acc ++ [x]) []

/-- The items of a usage line that must or did appear: options, then groups, then positional
values. `used` lists the ids of the arguments and groups that were given, or are missing. -/
def usageItems (c : Command) (used : List String) : List String :=
  let ids := c.requiredIds ++ used
  let groups := ids.filterMap c.group?
  let members := groups.flatMap (·.members)
  let groupTexts := dedup (groups.map c.groupText)
  let options := dedup (ids.filterMap fun id =>
    match c.arg? id with
    | some a => if a.isPositional || members.contains a.id then none else some (a.shown true)
    | none => none)
  let positionals := c.positionals.filterMap fun a =>
    if members.contains a.id then none else some (a.shown (ids.contains a.id))
  options ++ groupTexts ++ positionals

/-- Whether the full usage line shows `[OPTIONS]`: some option that is not help or version is
neither required nor in a required group. -/
def hasOptionalOptions (c : Command) : Bool :=
  c.args.any fun a =>
    !a.isPositional && a.action ≠ .help && a.action ≠ .version && !a.required &&
      !((c.groupsOf a.id).any (·.required))

def subcommandItem (c : Command) : String :=
  if c.subcommands.isEmpty then ""
  else if c.needsSubcommand then " <COMMAND>" else " [COMMAND]"

/-- The usage line when nothing is known about what was given. -/
def fullUsage (c : Command) : String :=
  c.usageName ++ (if c.hasOptionalOptions then " [OPTIONS]" else "") ++
    String.join ((c.usageItems []).map (" " ++ ·)) ++ c.subcommandItem

def usageFor (c : Command) (used : List String) : String :=
  if used.isEmpty then c.fullUsage
  else
    c.usageName ++ String.join ((c.usageItems used).map (" " ++ ·)) ++
      (if c.needsSubcommand then " <COMMAND>" else "")

def usageLine (c : Command) (used : List String) : String :=
  "Usage: " ++ c.usageFor used

/-- Rows of a two-column listing: each left text padded to the widest, two spaces, the right
text. -/
def columns (rows : List (String × String)) : List String :=
  let width := rows.foldl (fun w r => max w (visibleWidth r.1.toList)) 0
  rows.map fun (l, r) =>
    "  " ++ l ++ String.ofList (List.replicate (width - visibleWidth l.toList + 2) ' ') ++ r

def byKey {α : Type} (xs : List ((Nat × String) × α)) : List ((Nat × String) × α) :=
  xs.mergeSort fun a b => a.1.1 < b.1.1 || (a.1.1 = b.1.1 && !decide (b.1.2 < a.1.2))

/-- The left column of an option: its short letter, or room for one, then the option. -/
def optionLeft (a : Arg) : String :=
  (match a.short with
    | some c => "-" ++ c.toString ++ ", "
    | none => "    ") ++
    (match a.long with
      | some l => "--" ++ l
      | none => "") ++ a.suffix a.required

def sections (c : Command) : List String :=
  let subs := c.subcommands.filterMap c.subcommand?
  let commands := if subs.isEmpty then []
    else ["Commands:\n" ++ "\n".intercalate (columns (subs.map fun s => (s.name, s.about)))]
  let positionals := c.positionals
  let arguments := if positionals.isEmpty then []
    else ["Arguments:\n" ++
      "\n".intercalate (columns (positionals.map fun a => (a.shown a.required, a.helpLine)))]
  let options := byKey ((c.args.filter (!·.isPositional)).map fun a => (a.sortKey, a))
  let optionSection := if options.isEmpty then []
    else ["Options:\n" ++
      "\n".intercalate (columns (options.map fun (_, a) => (optionLeft a, a.helpLine)))]
  commands ++ arguments ++ optionSection

def helpText (c : Command) : String :=
  c.about ++ "\n\n" ++ c.usageLine [] ++ "\n\n" ++ "\n\n".intercalate c.sections ++ "\n"

end Command

end CommandLine

end PluralForms
