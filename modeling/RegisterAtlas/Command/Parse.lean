import RegisterAtlas.Command.Help
import RegisterAtlas.Command.Failure
import RegisterAtlas.Command.Similar
/-!
# Parsing a command line

The arguments are read left to right, first at the top level of the program and, from the
first word naming a subcommand, at that subcommand's level.

* `--name`, `--name=value`, `-n`, `-nvalue`, `-n=value` and runs of short switches (`-va`)
  name options; an option's value may also be the next argument. After `--` every argument is a
  positional value.
* An option's values are checked when the next option is met, a positional value is read, or
  the level ends: then a missing value, a repeated option and an empty path are refused.
* When the subcommand's level is complete, the top level is: an empty command line shows the
  help, a missing subcommand is refused, then arguments that conflict and required arguments
  that are missing.
* `help NAME` shows the long help of a subcommand, `--help` the long help and `-h` the short
  help of the level it is given at, `-V` and `--version` the version.

Errors on an unknown name suggest similar names: similar long options of the level (or of a
subcommand named later on the line), or similar subcommand names.
-/

namespace RegisterAtlas.Command

/-- How an argument was named on the command line. -/
inductive Naming
  | short
  | long
  | index
  deriving Repr, DecidableEq, Inhabited

/-- An argument given on the command line, with its values. -/
structure Given where
  id : String
  values : List String
  deriving Repr, DecidableEq, Inhabited

/-- Values of an argument read but not yet checked. -/
structure Pending where
  id : String
  naming : Naming
  values : List String
  deriving Repr, Inhabited

/-- The parser's state at one level. -/
structure Scan where
  /-- The arguments recorded, in the order they were recorded. -/
  given : List Given := []
  pending : Option Pending := none
  /-- The option whose value the next argument is. -/
  awaiting : Option String := none
  /-- Whether the next positional value goes on with the values of a repeated positional. -/
  collecting : Bool := false
  /-- The index of the next positional value. -/
  position : Nat := 1
  /-- Whether `--` was met, after which every argument is a positional value. -/
  literal : Bool := false
  deriving Repr, Inhabited

/-- The position of the first occurrence of an element. -/
def firstIndex (xs : List String) (x : String) : Option Nat :=
  (xs.zipIdx.find? (·.1 == x)).map (·.2)

namespace Scan

/-- Whether an argument was recorded. -/
def has (st : Scan) (id : String) : Bool := st.given.any (·.id == id)

/-- The ids of the arguments recorded. -/
def ids (st : Scan) : List String := st.given.map (·.id)

end Scan

section Complaints

variable (l : Level)

/-- An option or positional argument given without a value, or with an empty path. -/
def emptyValue (a : Arg) : Failure :=
  .complaint {
    message := "a value is required for " ++ quoted a.display ++ " but none was supplied",
    pointer := l.pointer }

/-- An argument given twice. -/
def repeated (a : Arg) : Failure :=
  .complaint {
    message := "the argument " ++ quoted a.display ++ " cannot be used multiple times",
    usage := some l.usage, pointer := l.pointer }

/-- A switch given a value. -/
def needlessValue (a : Arg) (value : String) (used : List String) : Failure :=
  .complaint {
    message := "unexpected value " ++ quoted value ++ " for " ++ quoted a.display ++
      " found; no more were expected",
    usage := some (l.usageWith used), pointer := l.pointer }

/-- A short option the level does not have. -/
def unknownShort (literal : Bool) (name : String) : Failure :=
  .complaint {
    message := "unexpected argument " ++ quoted name ++ " found",
    tips := if !literal && l.hasPositionals then
      ["to pass " ++ quoted name ++ " as a value, use " ++ quoted ("-- " ++ name)] else [],
    usage := some l.usage, pointer := l.pointer }

/-- A subcommand name the level does not have. -/
def unknownCommand (name : String) : Failure :=
  .complaint {
    message := "unrecognized subcommand " ++ quoted name,
    usage := some l.usage, pointer := l.pointer }

/-- A similar long option of a subcommand named among `rest`: the one named first. -/
def laterLong (name : String) (rest : List String) : Option (String × String) :=
  let found := l.commands.filterMap fun c =>
    match (similarNames name (l.commandLongs c)).getLast?, firstIndex rest c.name with
    | some f, some i => some (i, f, c.name)
    | _, _ => none
  let best := found.foldl (fun (acc : Option (Nat × String × String)) x =>
    match acc with
    | some y => if x.1 < y.1 then some x else some y
    | none => some x) none
  best.map fun (_, f, c) => (f, c)

/-- A long option the level does not have, `rest` being the arguments after it. -/
def unknownLong (st : Scan) (name : String) (rest : List String) : Failure :=
  let own := (similarNames name l.longNames).getLast?
  let later := if own.isSome then none else laterLong l name rest
  let st := match own.bind l.findLong? with
    | some a => if st.has a.id then st else { st with given := st.given ++ [Given.mk a.id []] }
    | none => st
  let trailing := own.isNone && later.isNone && !st.literal && l.hasPositionals
  .complaint {
    message := "unexpected argument " ++ quoted ("--" ++ name) ++ " found",
    similar := own.map fun f => ("argument", ["--" ++ f]),
    tips := (if trailing then
        ["to pass " ++ quoted ("--" ++ name) ++ " as a value, use " ++ quoted ("-- --" ++ name)]
      else []) ++
      (match later with
       | some (f, c) => [quoted (c ++ " --" ++ f) ++ " exists"]
       | none => []),
    usage := some (l.usageWith st.ids), pointer := l.pointer }

/-- Whether an argument has the form of a long option. -/
def looksLong (s : String) : Bool := s.startsWith "--" && s != "--"

/-- Whether an argument has the form of a short option. -/
def looksShort (s : String) : Bool := s.startsWith "-" && s != "-" && !s.startsWith "--"

/-- An argument the level has no place for. -/
def stray (literal : Bool) (arg : String) : Failure :=
  if literal && (l.command? arg).isSome then
    .complaint {
      message := "unexpected argument " ++ quoted arg ++ " found",
      tips := ["subcommand " ++ quoted arg ++ " exists; to use it, remove the " ++ quoted "--" ++
        " before it"],
      usage := some l.usage, pointer := l.pointer }
  else
    let trailing := !literal && l.hasPositionals && (looksLong arg || looksShort arg)
    let unexpected : Failure := .complaint {
      message := "unexpected argument " ++ quoted arg ++ " found",
      tips := if trailing then
        ["to pass " ++ quoted arg ++ " as a value, use " ++ quoted ("-- " ++ arg)] else [],
      usage := some l.usage, pointer := l.pointer }
    if l.commands.isEmpty then unexpected
    else
      match similarNames arg l.commandNames with
      | [] => if l.hasPositionals then unexpected else unknownCommand l arg
      | candidates => .complaint {
          message := "unrecognized subcommand " ++ quoted arg,
          similar := some ("subcommand", candidates),
          tips := if trailing then
            ["to pass " ++ quoted arg ++ " as a value, use " ++
              quoted (l.usageName ++ " -- " ++ arg)] else [],
          usage := some l.usage, pointer := l.pointer }

/-- A level left without its subcommand. -/
def missingCommand : Failure :=
  let names := l.commandNames
  .complaint {
    message := quoted l.usageName ++ " requires a subcommand but one was not provided" ++
      (if names.isEmpty then "" else "\n  [subcommands: " ++ ", ".intercalate names ++ "]"),
    usage := some l.usage, pointer := l.pointer }

end Complaints

namespace Scan

variable (l : Level)

/-- Check and record the values of an option or positional argument. The state is the one the
parser goes on with, or that the usage line of a later error is made from. -/
def record (st : Scan) (a : Arg) (values : List String) : Scan × Option Failure :=
  if values.isEmpty then (st, some (emptyValue l a))
  else if st.has a.id then
    ({ st with given := st.given.filter (·.id != a.id) }, some (repeated l a))
  else
    let path := match a.kind with
      | .option _ .path => true
      | .positional _ _ .path => true
      | _ => false
    if path && values.any (·.isEmpty) then
      ({ st with given := st.given ++ [⟨a.id, []⟩] }, some (emptyValue l a))
    else ({ st with given := st.given ++ [⟨a.id, values⟩] }, none)

/-- Check and record the pending values. -/
def settle (st : Scan) : Scan × Option Failure :=
  match st.pending with
  | none => (st, none)
  | some p =>
    let st := { st with pending := none }
    match l.find? p.id with
    | some a => st.record l a p.values
    | none => (st, none)

/-- Check and record the pending values, stopping at a failure. -/
def settled (st : Scan) : Except Failure Scan :=
  match st.settle l with
  | (st, none) => .ok st
  | (_, some f) => .error f

/-- Give a switch: a flag is recorded, help and version stop the parse. -/
def switchOn (st : Scan) (a : Arg) (naming : Naming) : Except Failure Scan := do
  let st ← st.settled l
  match a.kind with
  | .help => throw (.showHelp (l.helpText (naming != .short)))
  | .version => throw (.showVersion (l.usageName ++ " " ++ l.version.getD "" ++ "\n"))
  | _ =>
    if st.has a.id then throw (repeated l a)
    else pure { st with given := st.given ++ [⟨a.id, ["true"]⟩] }

/-- Give an option, with its value attached or else expected next. -/
def optionValue (st : Scan) (a : Arg) (naming : Naming) (attached : Option String) :
    Except Failure Scan := do
  let st ← st.settled l
  match attached with
  | some v =>
    match st.record l a [v] with
    | (st, none) => pure st
    | (_, some f) => throw f
  | none => pure { st with pending := some ⟨a.id, naming, []⟩, awaiting := some a.id }

/-- Read `--body`, `rest` being the arguments after it. -/
def long (st : Scan) (body : String) (rest : List String) : Except Failure Scan :=
  let cs := body.toList
  let name := String.ofList (cs.takeWhile (· != '='))
  let value := if cs.contains '=' then some (String.ofList ((cs.dropWhile (· != '=')).drop 1))
    else none
  match l.findLong? name with
  | some a =>
    if a.takesValue then st.optionValue l a .long value
    else
      match value with
      | some v =>
        let used := (st.given.filter fun g => !(l.find? g.id).any (·.required)).map (·.id)
        .error (needlessValue l a v (used ++ l.presentGroups st.ids ++ [a.id]))
      | none => st.switchOn l a .long
  | none => .error (unknownLong l (st.settle l).1 name rest)

/-- Read the characters of `-chars`: switches, up to an option that takes the rest as value. -/
def short (st : Scan) : List Char → Except Failure Scan
  | [] => pure st
  | c :: more =>
    match l.findShort? c with
    | some a =>
      if a.takesValue then
        let attached := match more with
          | [] => none
          | '=' :: v => some (String.ofList v)
          | v => some (String.ofList v)
        st.optionValue l a .short attached
      else do
        let st ← st.switchOn l a .short
        short st more
    | none => .error (unknownShort l st.literal ("-" ++ String.singleton c))

/-- Read a positional value. -/
def positional (st : Scan) (arg : String) : Except Failure Scan :=
  match l.positionalAt? st.position with
  | none => .error (stray l st.literal arg)
  | some a =>
    match a.kind with
    | .rest _ _ =>
      match st.pending with
      | some p =>
        if p.id == a.id then
          pure { st with pending := some { p with values := p.values ++ [arg] } }
        else do
          let st ← st.settled l
          pure { st with pending := some ⟨a.id, .index, [arg]⟩, collecting := true }
      | none => pure { st with pending := some ⟨a.id, .index, [arg]⟩, collecting := true }
    | _ => do
      let st ← st.settled l
      pure { st with pending := some ⟨a.id, .index, [arg]⟩, position := st.position + 1 }

end Scan

/-- Where reading a level stopped. -/
inductive Stop
  /-- The arguments ran out. -/
  | finished (st : Scan)
  /-- A subcommand was named; `rest` follows its name. -/
  | entered (c : Subcommand) (st : Scan) (rest : List String)
  /-- The `help` subcommand was named, followed by `names`. -/
  | helpFor (names : List String)

/-- Read arguments at a level until they run out or a subcommand is named. -/
def scan (l : Level) : Scan → List String → Except Failure Stop
  | st, [] => pure (.finished st)
  | st, arg :: rest =>
    let named := if st.literal || st.collecting || st.awaiting.isSome then none
      else l.command? arg
    match named with
    | some c => pure (if c.name == "help" then .helpFor rest else .entered c st rest)
    | none =>
      if st.literal then do scan l (← st.positional l arg) rest
      else if arg == "--" then scan l { st with literal := true } rest
      else if arg.startsWith "--" then do
        scan l (← st.long l (String.ofList (arg.toList.drop 2)) rest) rest
      else if arg.startsWith "-" && arg != "-" then do
        scan l (← st.short l (arg.toList.drop 1)) rest
      else
        match st.awaiting, st.pending with
        | some _, some p =>
          scan l { st with pending := some { p with values := p.values ++ [arg] },
                           awaiting := none } rest
        | _, _ => do scan l (← st.positional l arg) rest

/-- The arguments missing at a level: the required ones not given and, before the last missing
positional value, every positional value not given. -/
def missingAt (l : Level) (st : Scan) : List String :=
  let absent := (l.required.filter (!st.has ·.id)).map (·.id)
  let last := ((absent.filterMap l.find?).filterMap (·.index?)).foldl max 0
  absent ++ ((l.positionals.filter fun p => !st.has p.id && p.index?.getD 0 < last).map (·.id))

/-- The arguments recorded at a level that conflict with the one recorded as `id`. -/
def conflictsOf (l : Level) (st : Scan) (id : String) : List String :=
  let mine := ((l.find? id).map (·.conflicts)).getD []
  dedup (st.ids.filter fun o => o != id &&
    (mine.contains o || (((l.find? o).map (·.conflicts)).getD []).contains id))

/-- The first recorded argument that conflicts with others, and those others. -/
def firstConflict (l : Level) (st : Scan) : Option (String × List String) :=
  (st.ids.map fun id => (id, conflictsOf l st id)).find? (!·.2.isEmpty)

/-- Complete a level whose subcommand, if it has any, was read: check the pending values, the
conflicts and the required arguments. -/
def finish (l : Level) (st : Scan) : Except Failure (List Given) := do
  let st ← st.settled l
  match firstConflict l st with
  | some (id, others) =>
    let names := others.filterMap fun o => (l.find? o).map (·.display)
    let former := ((l.find? id).map (·.display)).getD id
    throw (.complaint {
      message := "the argument " ++ quoted former ++ " cannot be used with" ++
        (match names with
         | [n] => " " ++ quoted n
         | _ => ":" ++ String.join (names.map ("\n  " ++ ·))),
      usage := some (l.usageWith (st.ids.filter (!others.contains ·))), pointer := l.pointer })
  | none =>
    match missingAt l st with
    | [] => pure st.given
    | absent =>
      throw (.complaint {
        message := "the following required arguments were not provided:" ++
          String.join ((l.missing st.ids absent).map ("\n  " ++ ·)),
        usage := some (l.usageWith (st.ids ++ absent)), pointer := l.pointer })

/-- Why a level that needs a subcommand ended without one. -/
def bareFailure (l : Level) (st : Scan) : Failure :=
  match st.settle l with
  | (_, some f) => f
  | (st, none) =>
    if l.helpWhenBare && st.given.isEmpty then .helpInstead (l.helpText false)
    else missingCommand l

/-- What `help NAMES` shows. -/
def helpFor (p : Program) : List String → Failure
  | [] => .showHelp (p.top.helpText true)
  | n :: more =>
    match p.top.command? n with
    | none => unknownCommand p.top n
    | some c =>
      let l := p.level c
      match more with
      | [] => .showHelp (l.helpText true)
      | m :: _ => unknownCommand l m

/-- A parsed command line: the top level's arguments, the subcommand and its arguments. -/
structure Parsed where
  top : List Given
  command : Subcommand
  sub : List Given
  deriving Repr, Inhabited

/-- The values of an argument, from the subcommand's level if given there. -/
def Parsed.values? (r : Parsed) (id : String) : Option (List String) :=
  match r.sub.find? (·.id == id) with
  | some g => some g.values
  | none => (r.top.find? (·.id == id)).map (·.values)

/-- Whether a switch was given. -/
def Parsed.flag (r : Parsed) (id : String) : Bool := (r.values? id).isSome

/-- The value of an option, if given. -/
def Parsed.value? (r : Parsed) (id : String) : Option String := (r.values? id).bind (·.head?)

/-- Parse the arguments of a program (without the program name). -/
def parse (p : Program) (args : List String) : Except Failure Parsed := do
  let top := p.top
  match ← scan top {} args with
  | .helpFor names => throw (helpFor p names)
  | .finished st => throw (bareFailure top st)
  | .entered c st rest =>
    let l := p.level c
    let sub ← match ← scan l {} rest with
      | .finished sst => finish l sst
      | .entered _ sst _ => finish l sst
      | .helpFor _ => finish l {}
    let upper ← finish top st
    pure { top := upper, command := c, sub := sub }

end RegisterAtlas.Command
