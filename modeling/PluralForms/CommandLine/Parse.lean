import PluralForms.CommandLine.Complaint
import PluralForms.CommandLine.Similar
import PluralForms.CommandLine.Number

/-!
# Reading the command line

The words of the command line are read left to right against a command's grammar.

* A word that names a subcommand hands the rest of the line to it, unless positional values are
  being collected. The subcommand `help` shows a help screen at once.
* `--` makes every later word a positional value.
* `--name` and `--name=value` are options by long name; `-abc` is a cluster of short flags.
  A word that is a negative number, such as `-5`, is a value when the argument waiting for one,
  or the positional argument, accepts negative numbers.
* An option that takes a value takes the next word. Other words are positional values.

Values are checked when their argument is complete: at the next option, the next positional
run, or the end of the line. A mistake found while reporting another one is not reported.

At the end the line is validated: a subcommand is present where one is required, no two members
of a group are given, and everything required is given. The help and version flags stop the
reading when they are met; their text goes to standard output and the program ends normally.
-/

namespace PluralForms

namespace CommandLine

/-- An argument or group met on the command line, with the values it received. -/
structure Entry where
  id : String
  values : List String
  deriving Repr

/-- The arguments and groups met, in the order they were first met. -/
abbrev Matches := List Entry

namespace Matches

def has (m : Matches) (id : String) : Bool := m.any (·.id = id)

def valuesOf (m : Matches) (id : String) : List String :=
  ((m.find? (·.id = id)).map (·.values)).getD []

def remove (m : Matches) (id : String) : Matches := m.filter (·.id ≠ id)

/-- Records that an argument was met, and the groups it belongs to; an argument met before keeps
its place and its values. -/
def start (m : Matches) (c : Command) (a : Arg) : Matches :=
  let m := if m.has a.id then m else m ++ [{ id := a.id, values := [] }]
  (c.groupsOf a.id).foldl (fun m g => if m.has g.id then m else m ++ [{ id := g.id, values := [] }]) m

def push (m : Matches) (id : String) (v : String) : Matches :=
  m.map fun e => if e.id = id then { e with values := e.values ++ [v] } else e

def ids (m : Matches) : List String := m.map (·.id)

end Matches

/-- How reading the command line ended before the program could run. -/
inductive Stop where
  /-- A help screen or the version, for standard output. -/
  | show (text : String)
  /-- A usage error, for standard error. -/
  | fail (text : String)
  deriving DecidableEq, Repr

/-- What the reader expects next. -/
inductive Mode where
  | idle
  /-- The value of this option. -/
  | option (id : String)
  /-- More values of this positional argument. -/
  | positional (id : String)
  deriving DecidableEq, Repr

/-- The state of the reader. -/
structure Progress where
  found : Matches := []
  /-- The argument whose values are being gathered, and those values. -/
  pending : Option (String × List String) := none
  mode : Mode := .idle
  /-- Whether `--` was met. -/
  trailing : Bool := false
  deriving Repr

/-- What to do after a word. -/
inductive Next where
  /-- Go on with the next word. -/
  | go (p : Progress)
  /-- The word is a value after all. -/
  | value (p : Progress)
  | stop (s : Stop)

namespace Command

def check (c : Command) (a : Arg) (v : String) : Option Complaint :=
  match a.kind with
  | .text => none
  | .path => if v.isEmpty then some (c.emptyValue a) else none
  | .signed =>
    match readSigned v with
    | .ok _ => none
    | .error e => some (c.invalidValue a v e.message)
  | .unsigned =>
    match readUnsigned v with
    | .ok _ => none
    | .error e => some (c.invalidValue a v e.message)
  | .choice names =>
    if names.contains v then none else some (c.invalidChoice a v (similarTo v names).getLast?)

/-- Adds checked values to an argument, stopping at the first bad one. -/
def pushValues (c : Command) (a : Arg) : List String → Matches → Matches × Option Stop
  | [], m => (m, none)
  | v :: vs, m =>
    match c.check a v with
    | some e => (m, some (.fail e.render))
    | none => c.pushValues a vs (m.push a.id v)

/-- Applies an argument with its values: what was recorded, and what stopped the reading. -/
def react (c : Command) (a : Arg) (vals : List String) (m : Matches) : Matches × Option Stop :=
  match a.action with
  | .help => (m, some (.show c.helpText))
  | .version => (m, some (.show versionText))
  | .set =>
    if vals.isEmpty then (m, some (.fail (c.emptyValue a).render))
    else if m.has a.id then (m.remove a.id, some (.fail (c.givenTwice a).render))
    else c.pushValues a vals (m.start c a)
  | .flag =>
    if m.has a.id then (m.remove a.id, some (.fail (c.givenTwice a).render))
    else ((m.start c a).push a.id "true", none)
  | .count =>
    let before := (((m.valuesOf a.id).getLast?).bind String.toNat?).getD 0
    (((m.remove a.id).start c a).push a.id (toString (min 255 (before + 1))), none)
  | .collect => c.pushValues a vals (m.start c a)

/-- Applies the argument whose values were being gathered. -/
def resolve (c : Command) (p : Progress) : Progress × Option Stop :=
  match p.pending with
  | none => (p, none)
  | some (id, vals) =>
    let p := { p with pending := none }
    match c.arg? id with
    | some a =>
      let (m, s) := c.react a vals p.found
      ({ p with found := m }, s)
    | none => (p, none)

/-- Applies an argument after the one whose values were being gathered. -/
def apply (c : Command) (a : Arg) (vals : List String) (p : Progress) : Next :=
  match c.resolve p with
  | (_, some s) => .stop s
  | (p, none) =>
    match c.react a vals p.found with
    | (_, some s) => .stop s
    | (m, none) => .go { p with found := m, mode := .idle }

/-- The arguments and groups given that a usage line should mention: all but the required
arguments. -/
def usedIds (c : Command) (m : Matches) : List String :=
  m.ids.filter fun id =>
    match c.arg? id with
    | some a => !a.required
    | none => true

/-- The error for an unknown long option `--name`: it suggests a similar option of this command,
or else the same option of a subcommand named later on the line. -/
def unknownLong (c : Command) (name : String) (rest : List String) (p : Progress) : Stop :=
  let own := (similarTo name c.longs).getLast?
  let candidates := c.subcommands.filterMap fun s =>
    match c.subcommand? s with
    | some sc =>
      match (similarTo name sc.longs).getLast?, rest.idxOf? s with
      | some flag, some i => some (i, flag, s)
      | _, _ => none
    | none => none
  let nearest := candidates.foldl (fun best x =>
    match best with
    | some b => if x.1 < b.1 then some x else best
    | none => some x) none
  let elsewhere := if own.isSome then none else nearest
  let m := match own.bind c.byLong? with
    | some a => p.found.start c a
    | none => p.found
  let tips :=
    (if own.isNone && elsewhere.isNone && !p.trailing && !c.positionals.isEmpty then
      [asValueTip ("--" ++ name)] else []) ++
    (match elsewhere with
      | some (_, flag, s) => ["'" ++ s ++ " --" ++ flag ++ "' exists"]
      | none => [])
  .fail (c.unknownArgument ("--" ++ name) (own.map ("--" ++ ·)) tips (c.usageLine (c.usedIds m))).render

def unexpected (c : Command) (word : String) (p : Progress) : Stop :=
  if p.trailing && c.subcommands.contains word then .fail (c.subcommandAfterEscape word).render
  else
    let flagLike := word.startsWith "-" && word ≠ "-" && word ≠ "--"
    let asValue := !p.trailing && !c.positionals.isEmpty && flagLike
    let similar := similarTo word c.subcommands
    if !c.subcommands.isEmpty && !similar.isEmpty then
      let tips := if asValue then
          ["to pass '" ++ word ++ "' as a value, use '" ++ c.usageName ++ " -- " ++ word ++ "'"]
        else []
      .fail (c.unknownSubcommand word similar tips).render
    else if !c.subcommands.isEmpty && c.positionals.isEmpty then
      .fail (c.unknownSubcommand word [] []).render
    else
      .fail (c.unknownArgument word none (if asValue then [asValueTip word] else [])
        (c.usageLine [])).render

/-- The help subcommand: follows the names to a subcommand and shows its help screen. -/
def helpFor (c : Command) : List String → Stop
  | [] => .show c.helpText
  | name :: rest =>
    match c.subcommand? name with
    | some sc => helpFor sc rest
    | none => .fail (c.unknownSubcommand name [] []).render

def positional (c : Command) (p : Progress) (word : String) : Next :=
  match c.positionals.head? with
  | some a =>
    let gathering := (p.pending.map (·.1)) = some a.id
    match (if gathering then (p, none) else c.resolve p) with
    | (_, some s) => .stop s
    | (p, none) =>
      let before := match p.pending with
        | some (_, vs) => vs
        | none => []
      .go { p with pending := some (a.id, before ++ [word]), mode := .positional a.id }
  | none => .stop (c.unexpected word (c.resolve p).1)

/-- A word that is a value: of the option waiting for one, or else positional. -/
def valueWord (c : Command) (p : Progress) (word : String) : Next :=
  match p.mode with
  | .option id =>
    let before := match p.pending with
      | some (_, vs) => vs
      | none => []
    .go { p with pending := some (id, before ++ [word]), mode := .idle }
  | _ => c.positional p word

/-- An option that takes a value and has none attached: it waits for the next word. -/
def awaitValue (c : Command) (a : Arg) (p : Progress) : Next :=
  match c.resolve p with
  | (_, some s) => .stop s
  | (p, none) => .go { p with pending := some (a.id, []), mode := .option a.id }

def longWord (c : Command) (p : Progress) (body : String) (rest : List String) : Next :=
  let parts := body.splitOn "="
  let name := parts.headD ""
  let attached := if parts.length > 1 then some ("=".intercalate parts.tail) else none
  match c.byLong? name with
  | some a =>
    if a.takesValue then
      match attached with
      | some v => c.apply a [v] p
      | none => c.awaitValue a p
    else
      match attached with
      | some v => .stop (.fail (c.attachedValue a v (c.usedIds p.found ++ [a.id])).render)
      | none => c.apply a [] p
  | none => .stop (c.unknownLong name rest (c.resolve p).1)

/-- The flags of a cluster `-abc`, from the given letter on. -/
def shortFlags (c : Command) (word : String) : Progress → List Char → Next
  | p, [] => .go { p with mode := .idle }
  | p, letter :: more =>
    match c.byShort? letter with
    | some a =>
      if a.takesValue then
        if more.isEmpty then c.awaitValue a p
        else
          let v := match more with
            | '=' :: v => v
            | v => v
          c.apply a [String.ofList v] p
      else
        match c.apply a [] p with
        | .go p => c.shortFlags word p more
        | n => n
    | none =>
      let flag := "-" ++ letter.toString
      let tips := if !p.trailing && !c.positionals.isEmpty then [asValueTip flag] else []
      .stop (.fail (c.unknownArgument flag none tips (c.usageLine [])).render)

/-- A word that starts with one dash: a negative number where one is welcome, else flags. -/
def shortWord (c : Command) (p : Progress) (word : String) : Next :=
  let negative := isNegativeNumber word
  let waiting := match p.mode with
    | .option id | .positional id => ((c.arg? id).map (·.negatives)).getD false
    | .idle => false
  let positionalTakes := ((c.positionals.head?).map (·.negatives)).getD false
  if negative && (waiting || positionalTakes) then .value p
  else c.shortFlags word p (word.toList.drop 1)

def step (c : Command) (p : Progress) (word : String) (rest : List String) : Next :=
  if p.trailing then c.positional p word
  else if word = "--" then .go { p with trailing := true }
  else if word.startsWith "--" then c.longWord p (word.drop 2).toString rest
  else if word.startsWith "-" && word ≠ "-" then
    match c.shortWord p word with
    | .value p => c.valueWord p word
    | n => n
  else c.valueWord p word

/-- How reading a command's words ended. -/
inductive Scan where
  /-- The words ran out. -/
  | done (p : Progress)
  /-- A subcommand was named; the rest of the words are its own. -/
  | sub (p : Progress) (name : String) (rest : List String)
  | stop (s : Stop)

/-- Reads a command's words. A word names a subcommand only where an argument could start: not
after `--`, not while an option waits for its value, and not while a positional argument
collects more values. -/
def scan (c : Command) : Progress → List String → Scan
  | p, [] => .done p
  | p, word :: rest =>
    if !p.trailing && p.mode = .idle && c.subcommands.contains word then
      if word = "help" then .stop (c.helpFor rest) else .sub p word rest
    else
      match c.step p word rest with
      | .go p => c.scan p rest
      | .value p => c.scan p rest
      | .stop s => .stop s

/-- The first argument met that is given together with an argument it excludes. -/
def conflictIn (c : Command) (m : Matches) : Option Stop :=
  let excluded (id : String) : List String :=
    if (c.arg? id).isSome then c.excludedBy id else []
  let clash := (m.ids.filter fun id => (c.arg? id).isSome).findSome? fun id =>
    let keys := (m.ids.filter (· ≠ id)).flatMap fun o =>
      (if (excluded id).contains o then [o] else []) ++ (if (excluded o).contains id then [o] else [])
    if keys.isEmpty then none else some (id, keys)
  match clash with
  | none => none
  | some (id, keys) =>
    match c.arg? id with
    | none => none
    | some a =>
      let names := dedup (keys.flatMap fun k =>
        match c.group? k with
        | some g => g.members
        | none => [k])
      let others := names.filterMap fun n => (c.arg? n).map (·.text)
      let used := m.ids.filter fun i => (c.arg? i).isSome && !keys.contains i
      some (.fail (c.conflict a others (c.usageLine used)).render)

/-- The required arguments and groups not given, as written in the error. -/
def missingItems (c : Command) (missing : List String) : List String :=
  let groups := missing.filterMap c.group?
  let members := groups.flatMap (·.members)
  let args := (missing.filterMap c.arg?).filter fun a => !members.contains a.id
  (args.filter (!·.isPositional)).map (·.shown true) ++ groups.map c.groupText ++
    (args.filter (·.isPositional)).map (·.shown true)

/-- The error for required arguments and groups not given. -/
def missingIn (c : Command) (m : Matches) : Option Stop :=
  let missing := c.requiredIds.filter fun id =>
    match c.group? id with
    | some g => !g.members.any m.has
    | none => !m.has id
  if missing.isEmpty then none
  else
    let used := (m.ids.filter fun i => (c.arg? i).isSome) ++ missing
    some (.fail (c.missing (c.missingItems missing) used).render)

/-- Validates what a command read; `hasSub` tells whether a subcommand was named. -/
def validate (c : Command) (m : Matches) (hasSub : Bool) : Option Stop :=
  if !hasSub && c.helpWhenBare && m.isEmpty then some (.fail c.helpText)
  else if !hasSub && c.needsSubcommand then some (.fail c.missingSubcommand.render)
  else
    match c.conflictIn m with
    | some s => some s
    | none => c.missingIn m

/-- Finishes a command's reading: applies what is pending and validates. -/
def close (c : Command) (p : Progress) (hasSub : Bool) : Except Stop Matches :=
  match c.resolve p with
  | (_, some s) => .error s
  | (p, none) =>
    match c.validate p.found hasSub with
    | some s => .error s
    | none => .ok p.found

/-- Reads a command line: the matches of the command and of each subcommand named, outermost
first, with their commands' names. `fuel` bounds the nesting of subcommands. -/
def read (c : Command) : Nat → List String → Except Stop (List (String × Matches))
  | 0, _ => .ok []
  | fuel + 1, words =>
    match c.scan {} words with
    | .stop s => .error s
    | .done p => (c.close p false).map fun m => [(c.name, m)]
    | .sub p name rest =>
      match c.subcommand? name with
      | none => (c.close p false).map fun m => [(c.name, m)]
      | some sc =>
        match sc.read fuel rest with
        | .error s => .error s
        | .ok inner => (c.close p true).map fun m => (c.name, m) :: inner

end Command

end CommandLine

end PluralForms
