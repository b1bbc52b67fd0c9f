import RegisterAtlas.Command.Grammar
import RegisterAtlas.Command.Wrap
import RegisterAtlas.Text.Quoted
/-!
# Usage lines and help text

* `Level.usage` is the usage line the help text shows: the command, `[OPTIONS]` when it has
  options that are not required, its required options, all its positional values, and
  `<COMMAND>` where a subcommand must follow.
* `Level.usageWith used` is the usage line of an error: the command, its required options and
  the arguments `used` on the command line, all its positional values, and `<COMMAND>`.
* `Level.missing` lists the required arguments not given, as an error names them.
* `Level.helpText long` is the help text: the about text, the usage line, then the subcommands,
  the positional arguments and the options, each with its help wrapped to a 100 column screen.
  The long form (`--help`, when the level has one) uses the long about text and puts every
  argument's help on its own lines below the argument. Options are listed by their place and
  then by their short name (lower case before upper case) or long name.
-/

namespace RegisterAtlas.Command

/-- The screen width help text is wrapped to. -/
def screenWidth : Nat := 100

/-- The indentation of help placed below its argument. -/
def helpIndent : Nat := 10

/-- A list without the repetitions of earlier elements. -/
def dedup (xs : List String) : List String :=
  xs.foldl (fun seen x => if seen.contains x then seen else seen ++ [x]) []

namespace Level

/-- Whether usage lines show `[OPTIONS]`: some option is neither required nor built in. -/
def showsOptions (l : Level) : Bool :=
  l.args.any fun a => !a.isPositional && !a.required &&
    (match a.kind with
     | .help => false
     | .version => false
     | _ => true)

/-- Whether the level has subcommands that the help lists. -/
def listsCommands (l : Level) : Bool := l.commands.any (·.name != "help")

/-- A group as a usage line shows it: its members between angle brackets, split by `|`, a
positional member by its bare value name. -/
def groupForm (l : Level) (g : ArgGroup) : String :=
  let forms := (g.members.filterMap l.find?).map fun a =>
    match a.kind with
    | .positional _ v _ => v
    | .rest _ v => v
    | _ => a.form true
  "<" ++ "|".intercalate forms ++ ">"

/-- The argument forms of a usage line: the required options and the options among `named`,
then the groups among `named`, then every positional value, required when it is among `named`
and `required` holds. A member of a group shown is not shown again on its own. -/
def argForms (l : Level) (named : List String) (required : Bool) : List String :=
  let items := l.required.map (·.id) ++ named
  let groups := (dedup items).filterMap l.group?
  let members := groups.flatMap (·.members)
  let chosen := (items.filter (!members.contains ·)).filterMap l.find?
  let options := dedup ((chosen.filter (!·.isPositional)).map (·.form true))
  let values := (l.positionals.filter (!members.contains ·.id)).map fun p =>
    if chosen.any (·.id == p.id) then p.form required else p.form false
  options ++ groups.map (groupForm l) ++ values

/-- The usage line of the help text. -/
def usage (l : Level) : String :=
  let tail := if l.listsCommands then [if l.needsCommand then "<COMMAND>" else "[COMMAND]"]
    else []
  " ".intercalate ([l.usageName] ++ (if l.showsOptions then ["[OPTIONS]"] else []) ++
    l.argForms [] true ++ tail)

/-- The usage line of an error, naming the arguments `used`. -/
def usageWith (l : Level) (used : List String) : String :=
  if used.isEmpty then l.usage
  else " ".intercalate ([l.usageName] ++ l.argForms used true ++
    (if l.needsCommand then ["<COMMAND>"] else []))

/-- The required arguments and those in `missing` that are not among `given`, as an error
lists them: options first, then positional values by index. -/
def missing (l : Level) (given missing : List String) : List String :=
  let absent := ((l.required.map (·.id) ++ missing).filter (!given.contains ·)).filterMap l.find?
  let options := dedup ((absent.filter (!·.isPositional)).map (·.form true))
  let values := (absent.filter (·.isPositional)).mergeSort
    (fun a b => a.index?.getD 0 <= b.index?.getD 0)
  options ++ dedup (values.map (·.form true))

end Level

/-- The note after an argument's help: its default value, quoted when empty or spaced. -/
def Arg.note (a : Arg) : String :=
  match a.default with
  | some d =>
    let shown := if d.isEmpty || d.any (· = ' ') then Text.quote d else d
    "[default: " ++ shown ++ "]"
  | none => ""

/-- An argument's help text with its note, in the long or short form. -/
def Arg.helpWith (a : Arg) (long : Bool) : String :=
  let body := if long then a.longHelp.getD a.help else a.help
  let note := a.note
  if note.isEmpty then body
  else if body.isEmpty then note
  else body ++ (if long then "\n\n" else " ") ++ note

/-- The names of an argument as the help listing writes them: `-p, --peripheral <PERIPHERAL>`,
with four spaces standing for a missing short name. -/
def Arg.listing (a : Arg) : String :=
  let short := match a.short with
    | some s => "-" ++ String.singleton s
    | none => if a.long.isSome then "    " else ""
  let long := match a.long with
    | some l => (if a.short.isSome then ", " else "") ++ "--" ++ l
    | none => ""
  let suffix := match a.kind with
    | .option _ _ => " " ++ a.placeholder true
    | .positional _ _ _ => a.placeholder a.required
    | .rest _ _ => a.placeholder false
    | _ => ""
  short ++ long ++ suffix

/-- The sort key of an option in the help listing. -/
def Arg.listKey (a : Arg) : Nat × String :=
  match a.short with
  | some c => (a.order, String.ofList [c.toLower, if c.isLower then '0' else '1'])
  | none => (a.order, a.long.getD ("\x7b" ++ a.id))

/-- Whether key `a` sorts before or with key `b`. -/
def keyLe (a b : Nat × String) : Bool := a.1 < b.1 || (a.1 == b.1 && decide (a.2 ≤ b.2))

/-- Whether help text that starts at column `taken` moves below its item: when the item takes
over 40% of the screen and the help does not fit beside it. -/
def crowded (taken width : Nat) : Bool :=
  screenWidth ≥ taken && taken * 100 > 40 * screenWidth && width > screenWidth - taken

/-- A help text placed beside its item at column `column`, or below it. -/
def placeHelp (column : Nat) (below : Bool) (text : String) : String :=
  if below then
    "\n" ++ spaces helpIndent ++ indentLines (spaces helpIndent) (wrapText (screenWidth - helpIndent) text)
  else indentLines (spaces column) (wrapText (screenWidth - column) text)

/-- The help listing of some arguments. -/
def argListing (args : List Arg) (long : Bool) : String :=
  let positional := args.all (·.isPositional)
  let widths := (args.filter fun a => a.takesValue || a.long.isSome || a.short.isNone).map
    fun a => a.display.length
  let widest := widths.foldl max 2
  let column := if positional then widest + 4 else widest + 8
  let below := long || args.any fun a => crowded column (a.help.length + a.note.length)
  let entry (a : Arg) : String :=
    let names := a.listing
    "  " ++ names ++ (if below then "" else spaces (column - 2 - names.length)) ++
      placeHelp column below (a.helpWith long)
  (if below && long then "\n\n" else "\n").intercalate (args.map entry)

/-- The note after a subcommand's about text: its aliases. -/
def Subcommand.note (c : Subcommand) : String :=
  match c.aliases with
  | [] => ""
  | [a] => "[alias: " ++ a ++ "]"
  | as => "[aliases: " ++ ", ".intercalate as ++ "]"

/-- The about text of a subcommand with its note. -/
def Subcommand.summary (c : Subcommand) : String :=
  if c.note.isEmpty then c.about
  else if c.about.isEmpty then c.note
  else c.about ++ " " ++ c.note

/-- The help listing of subcommands. -/
def commandListing (cs : List Subcommand) : String :=
  let widest := (cs.map (·.name.length)).foldl max 2
  let column := widest + 4
  let below := cs.any fun c => crowded column (c.about.length + c.note.length)
  "\n".intercalate (cs.map fun c =>
    "  " ++ c.name ++ (if below then "" else spaces (column - 2 - c.name.length)) ++
      placeHelp column below c.summary)

namespace Level

/-- The help text, in its long form when `long` is asked for and the level has one. -/
def helpText (l : Level) (wantLong : Bool) : String :=
  let long := wantLong && l.longHelp
  let about := if long then l.longAbout.orElse (fun _ => l.about) else l.about
  let head := match about with
    | some a => wrapText screenWidth a ++ "\n\n"
    | none => ""
  let positionals := l.positionals
  let options := (l.args.filter (!·.isPositional)).mergeSort fun a b => keyLe a.listKey b.listKey
  let sections :=
    (if l.listsCommands then ["Commands:\n" ++ commandListing l.commands] else []) ++
    (if positionals.isEmpty then [] else ["Arguments:\n" ++ argListing positionals long]) ++
    (if options.isEmpty then [] else ["Options:\n" ++ argListing options long])
  String.ofList (trimEnd (head ++ "Usage: " ++ l.usage ++ "\n\n" ++ "\n\n".intercalate sections).toList) ++ "\n"

end Level

end RegisterAtlas.Command
