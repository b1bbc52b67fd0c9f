/-!
# Command line failures

Parsing a command line stops either with the parsed arguments or with a `Failure`: the help
text or the version was asked for, or the command line is wrong.

* A `Complaint` is an error message with its parts: the message, names similar to a mistyped
  one, tips, the usage line and the switch to try for more information.
* `Failure.status`, `Failure.stdout` and `Failure.stderr` say how the program ends: help and
  version are printed on standard output with status 0, errors (and the help shown instead of
  one for an empty command line) on standard error with status 2.
-/

namespace RegisterAtlas.Command

/-- An error message about a command line. -/
structure Complaint where
  message : String
  /-- What kind of name was mistyped (`subcommand`, `argument`) and the similar names, least
  similar first. -/
  similar : Option (String × List String) := none
  tips : List String := []
  /-- The usage line shown after the message. -/
  usage : Option String := none
  /-- The switch the closing line suggests, if any. -/
  pointer : Option String := some "--help"
  deriving Repr, Inhabited

/-- A name between single quotes. -/
def quoted (s : String) : String := "'" ++ s ++ "'"

/-- The text of an error message. -/
def Complaint.render (c : Complaint) : String :=
  let similar := match c.similar with
    | some (what, [n]) => "\n\n  tip: a similar " ++ what ++ " exists: " ++ quoted n
    | some (what, ns) =>
      "\n\n  tip: some similar " ++ what ++ "s exist: " ++ ", ".intercalate (ns.map quoted)
    | none => ""
  let tips := if c.tips.isEmpty then ""
    else (if c.similar.isSome then "" else "\n") ++ String.join (c.tips.map ("\n  tip: " ++ ·))
  let usage := match c.usage with
    | some u => "\n\nUsage: " ++ u
    | none => ""
  let closing := match c.pointer with
    | some p => "\n\nFor more information, try " ++ quoted p ++ ".\n"
    | none => "\n"
  "error: " ++ c.message ++ similar ++ tips ++ usage ++ closing

/-- Why parsing a command line stopped. -/
inductive Failure
  /-- The help text was asked for. -/
  | showHelp (text : String)
  /-- The version was asked for. -/
  | showVersion (text : String)
  /-- Nothing was given: the help text is shown as an error. -/
  | helpInstead (text : String)
  /-- The command line is wrong. -/
  | complaint (c : Complaint)
  deriving Repr, Inhabited

/-- The exit status. -/
def Failure.status : Failure → Nat
  | .showHelp _ => 0
  | .showVersion _ => 0
  | .helpInstead _ => 2
  | .complaint _ => 2

/-- What is printed on standard output. -/
def Failure.stdout : Failure → String
  | .showHelp t => t
  | .showVersion t => t
  | _ => ""

/-- What is printed on standard error. -/
def Failure.stderr : Failure → String
  | .helpInstead t => t
  | .complaint c => c.render
  | _ => ""

end RegisterAtlas.Command
