/-!
# Command line grammar

The shape of a command line with subcommands: a program with options of its own, some of them
global (accepted after any subcommand as well), and a list of subcommands, each with its own
options and positional arguments.

* `Arg` is one argument: a flag, an option with one value, a positional value, or the built-in
  help and version switches. Options are named by a short (`-p`) and/or long (`--peripheral`)
  name; positional values by their index, from 1.
* `Subcommand` and `Program` describe the commands as written; `Program.top` and
  `Program.level` complete them into the `Level`s the parser works on: every level gets a help
  switch (unless it asks not to), the top level also a version switch and a `help` subcommand,
  and the subcommands the program's global options.
* `Arg.display` is the name an argument is quoted by in messages (`--peripheral <PERIPHERAL>`,
  `<SOURCE>`, `[OUTPUT]`).
-/

namespace RegisterAtlas.Command

/-- How a value given on the command line is checked. -/
inductive ValueCheck
  /-- Any text, the empty text included. -/
  | text
  /-- A path, which must not be empty. -/
  | path
  deriving Repr, DecidableEq, Inhabited

/-- What an argument is. -/
inductive ArgKind
  /-- A switch, on when given. -/
  | flag
  /-- An option taking one value. -/
  | option (valueName : String) (check : ValueCheck)
  /-- The positional value at an index (from 1). -/
  | positional (index : Nat) (valueName : String) (check : ValueCheck)
  /-- Any number of positional values from an index on. -/
  | rest (index : Nat) (valueName : String)
  /-- The switch that shows the help text. -/
  | help
  /-- The switch that shows the version. -/
  | version
  deriving Repr, DecidableEq, Inhabited

/-- One argument of a command. -/
structure Arg where
  /-- The name the parsed value is found under. -/
  id : String
  short : Option Char := none
  long : Option String := none
  kind : ArgKind
  /-- The help line. -/
  help : String
  /-- A longer help text, for the long help. -/
  longHelp : Option String := none
  required : Bool := false
  /-- Accepted by every subcommand as well. -/
  global : Bool := false
  /-- The arguments it cannot be given with. -/
  conflicts : List String := []
  /-- The value it has when not given. -/
  default : Option String := none
  /-- Its place in the help listing; ties are broken by name. -/
  order : Nat := 999
  deriving Repr, Inhabited

/-- The positional index of an argument, if it is positional. -/
def Arg.index? (a : Arg) : Option Nat :=
  match a.kind with
  | .positional i _ _ => some i
  | .rest i _ => some i
  | _ => none

/-- Whether an argument is positional. -/
def Arg.isPositional (a : Arg) : Bool := a.index?.isSome

/-- Whether an argument is an option taking a value. -/
def Arg.takesValue (a : Arg) : Bool :=
  match a.kind with
  | .option _ _ => true
  | .positional _ _ _ => true
  | .rest _ _ => true
  | _ => false

/-- The value placeholder of a positional argument: `<NAME>` when required, `[NAME]` otherwise,
followed by `...` when it takes any number of values. -/
def Arg.placeholder (a : Arg) (required : Bool) : String :=
  match a.kind with
  | .option v _ => "<" ++ v ++ ">"
  | .positional _ v _ => if required then "<" ++ v ++ ">" else "[" ++ v ++ "]"
  | .rest _ v => "[" ++ v ++ "]..."
  | _ => ""

/-- The flag an argument is written with: its long name if it has one, else its short one. -/
def Arg.flagName (a : Arg) : String :=
  match a.long, a.short with
  | some l, _ => "--" ++ l
  | none, some s => "-" ++ String.singleton s
  | none, none => ""

/-- The argument as usage lines and messages write it, a positional one as required or not. -/
def Arg.form (a : Arg) (required : Bool) : String :=
  match a.kind with
  | .option _ _ => a.flagName ++ " " ++ a.placeholder required
  | .positional _ _ _ => a.placeholder required
  | .rest _ _ => a.placeholder required
  | _ => a.flagName

/-- The argument as messages quote it. -/
def Arg.display (a : Arg) : String := a.form a.required

/-- A named set of arguments of one command. It counts as given on the command line once one of
its members is, and a usage line may then show it in place of its members. -/
structure ArgGroup where
  id : String
  members : List String
  deriving Repr, Inhabited

/-- A subcommand as written. -/
structure Subcommand where
  name : String
  /-- Other names for it, shown in the help listing. -/
  aliases : List String := []
  about : String
  longAbout : Option String := none
  /-- Its own arguments, in the order they are declared. -/
  args : List Arg
  /-- Its groups of arguments. -/
  groups : List ArgGroup := []
  /-- Whether it has a help switch. -/
  helpSwitch : Bool := true
  /-- Whether the program's global options apply to it. -/
  takesGlobals : Bool := true
  deriving Repr, Inhabited

/-- Whether a subcommand answers to a name. -/
def Subcommand.answers (c : Subcommand) (name : String) : Bool :=
  c.name == name || c.aliases.contains name

/-- A program with subcommands, one of which must be given. -/
structure Program where
  name : String
  version : String
  about : String
  longAbout : Option String := none
  /-- The program's own arguments, in the order they are declared. -/
  args : List Arg
  /-- The groups of the program's own arguments. -/
  groups : List ArgGroup := []
  commands : List Subcommand
  deriving Repr, Inhabited

/-- A command completed with its built-in arguments: what the parser and the help text work
from. -/
structure Level where
  /-- The command as usage lines name it: the program name, then the subcommand name. -/
  usageName : String
  about : Option String
  longAbout : Option String
  /-- Every argument, in declaration order: its own, the global ones, help, version. -/
  args : List Arg
  /-- The groups of its own arguments. -/
  groups : List ArgGroup
  /-- The subcommands; none below the top. -/
  commands : List Subcommand
  /-- A subcommand must be given. -/
  needsCommand : Bool
  /-- Without any argument, the help text is shown instead of an error. -/
  helpWhenBare : Bool
  /-- Whether the level has a help switch, which messages then point to. -/
  helpSwitch : Bool
  /-- The version its version switch shows. -/
  version : Option String
  /-- The arguments its subcommands take from it. -/
  globals : List Arg
  deriving Repr, Inhabited

/-- Whether the help text has a long form beyond the short one. -/
def hasLongHelp (longAbout : Option String) (args : List Arg) : Bool :=
  longAbout.isSome || args.any (·.longHelp.isSome)

/-- The help switch; its text tells whether a long help exists. -/
def helpArg (longExists : Bool) : Arg :=
  if longExists then
    { id := "help", short := some 'h', long := some "help", kind := .help,
      help := "Print help (see more with '--help')",
      longHelp := some "Print help (see a summary with '-h')" }
  else { id := "help", short := some 'h', long := some "help", kind := .help, help := "Print help" }

/-- The version switch. -/
def versionArg : Arg :=
  { id := "version", short := some 'V', long := some "version", kind := .version,
    help := "Print version" }

/-- The built-in `help` subcommand. -/
def helpCommand : Subcommand :=
  { name := "help", about := "Print this message or the help of the given subcommand(s)",
    args := [{ id := "subcommand", kind := .rest 1 "COMMAND",
               help := "Print help for the subcommand(s)" }],
    helpSwitch := false, takesGlobals := false }

/-- The top level of a program. -/
def Program.top (p : Program) : Level :=
  { usageName := p.name, about := some p.about, longAbout := p.longAbout,
    args := p.args ++ [helpArg (hasLongHelp p.longAbout p.args), versionArg], groups := p.groups,
    commands := p.commands ++ [helpCommand], needsCommand := true, helpWhenBare := true,
    helpSwitch := true, version := some p.version, globals := p.args.filter (·.global) }

/-- The level of a subcommand of a program. -/
def Program.level (p : Program) (c : Subcommand) : Level :=
  let own := c.args ++ (if c.takesGlobals then p.args.filter (·.global) else [])
  { usageName := p.name ++ " " ++ c.name, about := some c.about, longAbout := c.longAbout,
    args := own ++ (if c.helpSwitch then [helpArg (hasLongHelp c.longAbout own)] else []),
    groups := c.groups, commands := [], needsCommand := false, helpWhenBare := false, helpSwitch := c.helpSwitch,
    version := none, globals := [] }

namespace Level

/-- The argument with an id. -/
def find? (l : Level) (id : String) : Option Arg := l.args.find? (·.id == id)

/-- The group with an id. -/
def group? (l : Level) (id : String) : Option ArgGroup := l.groups.find? (·.id == id)

/-- The groups that the arguments `given` make present, in the order they became present. -/
def presentGroups (l : Level) (given : List String) : List String :=
  given.foldl (fun acc id =>
    acc ++ ((l.groups.filter (·.members.contains id)).map (·.id)).filter (!acc.contains ·)) []

/-- The argument with a long name. -/
def findLong? (l : Level) (name : String) : Option Arg :=
  l.args.find? fun a => !a.isPositional && a.long == some name

/-- The argument with a short name. -/
def findShort? (l : Level) (c : Char) : Option Arg :=
  l.args.find? fun a => !a.isPositional && a.short == some c

/-- The positional argument taking the value at an index. -/
def positionalAt? (l : Level) (i : Nat) : Option Arg :=
  l.args.find? fun a => a.index? == some i

/-- The positional arguments, by index. -/
def positionals (l : Level) : List Arg :=
  (l.args.filter (·.isPositional)).mergeSort fun a b => a.index?.getD 0 <= b.index?.getD 0

/-- Whether the level takes positional values. -/
def hasPositionals (l : Level) : Bool := l.args.any (·.isPositional)

/-- The long names, in declaration order. -/
def longNames (l : Level) : List String :=
  l.args.filterMap fun a => if a.isPositional then none else a.long

/-- The subcommand answering to a name. -/
def command? (l : Level) (name : String) : Option Subcommand :=
  l.commands.find? (·.answers name)

/-- Every name a subcommand answers to, each subcommand's name before its aliases. -/
def commandNames (l : Level) : List String :=
  l.commands.flatMap fun c => c.name :: c.aliases

/-- The required arguments, in declaration order. -/
def required (l : Level) : List Arg := l.args.filter (·.required)

/-- Whether the help text has a long form. -/
def longHelp (l : Level) : Bool := hasLongHelp l.longAbout l.args

/-- The long names a subcommand of the level answers to. -/
def commandLongs (l : Level) (c : Subcommand) : List String :=
  (c.args ++ (if c.takesGlobals then l.globals else [])).filterMap
    (fun a => if a.isPositional then none else a.long) ++
  (if c.helpSwitch then ["help"] else [])

/-- The switch error messages point to: the help switch, or the `help` subcommand. -/
def pointer (l : Level) : Option String :=
  if l.helpSwitch then some "--help"
  else if !l.commands.isEmpty then some "help"
  else none

end Level

end RegisterAtlas.Command
