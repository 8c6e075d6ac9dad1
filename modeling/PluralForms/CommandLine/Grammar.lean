/-!
# The command-line grammar

The `plural` program takes options before and after its subcommand. This module declares them
as data: every argument has a long name and perhaps a short letter, a value or none, a help line,
and what giving it does. Usage lines, help screens and the parser all read this one declaration.

* `--color <COLOR>` and `-v, --verbose` are global: they may be given before the subcommand or
  after it, and the later place wins.
* `eval` and `table` share the rule options. Exactly one of `--header`, `--formula` and `--tree`
  names the rule; they form a required group whose members exclude each other.
* `eval` takes the numbers to classify as positional values, `table` takes a range.
* `help` shows the help screen of the program or of the subcommands named after it.
-/

namespace PluralForms

namespace CommandLine

/-- How the values of an argument are read. -/
inductive ValueKind where
  /-- Any text. -/
  | text
  /-- A file path, which may not be empty. -/
  | path
  /-- A signed 64-bit integer. -/
  | signed
  /-- An unsigned 64-bit integer. -/
  | unsigned
  /-- One of the listed names, spelled exactly. -/
  | choice (names : List String)
  deriving DecidableEq, Repr

/-- What giving an argument does. -/
inductive Action where
  /-- Stores the one value that follows; giving it twice is an error. -/
  | set
  /-- Switches a flag on; giving it twice is an error. -/
  | flag
  /-- Counts how often it is given. -/
  | count
  /-- Collects every value given to it (positional arguments). -/
  | collect
  /-- Shows the help screen. -/
  | help
  /-- Shows the version. -/
  | version
  deriving DecidableEq, Repr

/-- An argument of a command. An argument with neither a long name nor a short letter is
positional. -/
structure Arg where
  id : String
  long : Option String := none
  short : Option Char := none
  /-- The placeholder of the value, such as `COLOR`; empty for flags. -/
  valueName : String := ""
  help : String
  action : Action
  kind : ValueKind := .text
  default : Option String := none
  required : Bool := false
  global : Bool := false
  /-- Whether a value may look like a negative number (`-5`) instead of a short flag. -/
  negatives : Bool := false
  /-- Position in help listings; ties are broken by name. -/
  order : Nat
  deriving Repr

namespace Arg

def takesValue (a : Arg) : Bool := a.action = .set || a.action = .collect

def isPositional (a : Arg) : Bool := a.long.isNone && a.short.isNone

end Arg

/-- A set of arguments of which at most one may be given; when the group is required, exactly
one. -/
structure Group where
  id : String
  members : List String
  required : Bool
  deriving Repr

/-- A command: the program itself or one of its subcommands. -/
structure Command where
  name : String
  /-- The name shown in usage lines: the program's name, then the subcommand's. -/
  usageName : String
  about : String
  /-- The arguments, in the order they were declared; generated ones (help, version and the
  global arguments a subcommand receives) come last. -/
  args : List Arg
  groups : List Group := []
  /-- The names of the subcommands, in listing order. -/
  subcommands : List String := []
  /-- A subcommand must be given. -/
  needsSubcommand : Bool := false
  /-- With no argument at all, the help screen is shown as an error. -/
  helpWhenBare : Bool := false
  /-- Whether `-h, --help` is one of the arguments. -/
  hasHelpFlag : Bool := true
  deriving Repr

/-- The listing position of generated arguments: after every declared one, at `2 ^ 64 - 1`. -/
def lastOrder : Nat := 18446744073709551615

def colorArg : Arg :=
  { id := "color", long := some "color", valueName := "COLOR", help := "Color output control",
    action := .set, kind := .choice ["auto", "always", "never"], default := some "auto",
    global := true, order := 0 }

def verboseArg : Arg :=
  { id := "verbose", long := some "verbose", short := some 'v',
    help := "Increase log verbosity (-v info, -vv debug, -vvv trace)", action := .count,
    global := true, order := 1 }

def helpArg : Arg :=
  { id := "help", long := some "help", short := some 'h', help := "Print help", action := .help,
    order := lastOrder }

def versionArg : Arg :=
  { id := "version", long := some "version", short := some 'V', help := "Print version",
    action := .version, order := lastOrder }

/-- The options that choose and configure the rule, shared by `eval` and `table`. -/
def ruleArgs : List Arg :=
  [{ id := "header", long := some "header", valueName := "HEADER",
     help := "Plural-Forms header value (e.g. \"nplurals=2; plural=n != 1;\")", action := .set,
     order := 0 },
   { id := "formula", long := some "formula", valueName := "FORMULA",
     help := "Bare plural formula (e.g. \"n != 1\")", action := .set, order := 1 },
   { id := "tree", long := some "tree", valueName := "TREE",
     help := "JSON file containing a serialized expression tree", action := .set, kind := .path,
     order := 2 },
   { id := "nplurals", long := some "nplurals", valueName := "NPLURALS",
     help := "Number of plural forms for --formula and --tree", action := .set, kind := .signed,
     default := some "2", order := 3 },
   { id := "max_depth", long := some "max-depth", valueName := "MAX_DEPTH",
     help := "Maximum nesting depth accepted by the formula parser", action := .set,
     kind := .unsigned, order := 4 }]

/-- Exactly one of `--header`, `--formula` and `--tree`. -/
def ruleSource : Group :=
  { id := "RuleSource", members := ["header", "formula", "tree"], required := true }

def evalCommand : Command :=
  { name := "eval", usageName := "plural eval",
    about := "Compute the plural form index for each number",
    args := ruleArgs ++
      [{ id := "numbers", valueName := "NUMBERS", help := "Numbers to classify", action := .collect,
         kind := .signed, required := true, negatives := true, order := 0 },
       { id := "checked", long := some "checked",
         help := "Treat indices outside 0..nplurals as errors", action := .flag, order := 5 },
       { id := "json", long := some "json", help := "Output as JSON", action := .flag, order := 6 },
       colorArg, verboseArg, helpArg],
    groups := [ruleSource] }

def tableCommand : Command :=
  { name := "table", usageName := "plural table",
    about := "Print plural form indices for a range of numbers",
    args := ruleArgs ++
      [{ id := "from", long := some "from", valueName := "FROM",
         help := "First number of the range", action := .set, kind := .signed, default := some "0",
         negatives := true, order := 5 },
       { id := "to", long := some "to", valueName := "TO",
         help := "Last number of the range (inclusive)", action := .set, kind := .signed,
         default := some "30", negatives := true, order := 6 },
       { id := "json", long := some "json", help := "Output as JSON", action := .flag, order := 7 },
       colorArg, verboseArg, helpArg],
    groups := [ruleSource] }

/-- `plural help`: the names of the commands whose help to show. -/
def helpCommand : Command :=
  { name := "help", usageName := "plural help",
    about := "Print this message or the help of the given subcommand(s)",
    args := [{ id := "subcommand", valueName := "COMMAND",
               help := "Print help for the subcommand(s)", action := .collect, order := 0 }],
    hasHelpFlag := false }

def program : Command :=
  { name := "plural", usageName := "plural", about := "Evaluate gettext plural rule formulas",
    args := [colorArg, verboseArg, helpArg, versionArg],
    subcommands := ["eval", "table", "help"], needsSubcommand := true, helpWhenBare := true }

def versionText : String := "plural 0.1.0\n"

namespace Command

def subcommand? (c : Command) (name : String) : Option Command :=
  if c.subcommands.contains name then
    if name = "eval" then some evalCommand
    else if name = "table" then some tableCommand
    else if name = "help" then some helpCommand
    else none
  else none

def arg? (c : Command) (id : String) : Option Arg := c.args.find? (·.id = id)

def group? (c : Command) (id : String) : Option Group := c.groups.find? (·.id = id)

def byLong? (c : Command) (name : String) : Option Arg := c.args.find? (·.long = some name)

def byShort? (c : Command) (letter : Char) : Option Arg := c.args.find? (·.short = some letter)

def positionals (c : Command) : List Arg := c.args.filter (·.isPositional)

def longs (c : Command) : List String := c.args.filterMap (·.long)

def groupsOf (c : Command) (id : String) : List Group := c.groups.filter (·.members.contains id)

/-- The ids that must be given: required arguments in order, then required groups. -/
def requiredIds (c : Command) : List String :=
  (c.args.filter (·.required)).map (·.id) ++ (c.groups.filter (·.required)).map (·.id)

/-- The arguments a given argument excludes: the other members of its groups. -/
def excludedBy (c : Command) (id : String) : List String :=
  (c.groupsOf id).flatMap fun g => g.members.filter (· ≠ id)

end Command

end CommandLine

end PluralForms
