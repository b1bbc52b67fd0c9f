import RegisterAtlas.Command.Parse
import RegisterAtlas.Ingest
import RegisterAtlas.Report
import RegisterAtlas.Generate.Emit
/-!
# The lookup program

`svd-lookup`, the command line over register stores:

* `convert SOURCE [OUTPUT]` writes a new store file from a device description, by default next
  to the source with the extension `.db`;
* `list`, `registers`, `display` and `dump` print reports, `asm`, `forth` and `forth-regs`
  generated definitions, from the store named by `-d FILE`, or else the `default-svd.db` found
  in `-c DIR` (or the working directory) or the nearest of its ancestors.

`Lookup.run` gives the exit status and the texts for standard output and standard error. A
command line the grammar refuses ends with status 2; a failing command prints `Error: ` and the
failure with the context it arose in, each cause after `: `, and ends with status 1.
-/

namespace RegisterAtlas

namespace Lookup

open Command

/-- `-v`, `--verbose`. -/
def verboseArg : Arg :=
  { id := "verbose", short := some 'v', long := some "verbose", kind := .flag,
    help := "Verbose output: include descriptions and debug logging", global := true, order := 0 }

/-- `-c`, `--curdir`. -/
def curdirArg : Arg :=
  { id := "curdir", short := some 'c', long := some "curdir", kind := .option "DIR" .path,
    help := "Directory to start the search for default-svd.db from", global := true,
    conflicts := ["database"], order := 1 }

/-- `-d`, `--database`. -/
def databaseArg : Arg :=
  { id := "database", short := some 'd', long := some "database", kind := .option "FILE" .path,
    help := "Use the named database file", global := true, order := 2 }

/-- `-p`, `--peripheral`, required. -/
def peripheralArg (help : String) : Arg :=
  { id := "peripheral", short := some 'p', long := some "peripheral",
    kind := .option "PERIPHERAL" .text, help := help, required := true, order := 0 }

/-- The help of a peripheral that may be a pattern. -/
def patternHelp : String := "Peripheral to use (`%` and `_` wildcards allowed)"

/-- `-r`, `--register`, empty by default. -/
def registerArg : Arg :=
  { id := "register", short := some 'r', long := some "register",
    kind := .option "REGISTER" .text, help := "Register pattern to filter on",
    default := some "", order := 1 }

/-- `-a`, `--addwords`. -/
def addWordsArg (help : String) : Arg :=
  { id := "addwords", short := some 'a', long := some "addwords", kind := .flag, help := help,
    order := 2 }

/-- The arguments of the commands that work on one peripheral. -/
def targetArgs : List Arg := [peripheralArg patternHelp, registerArg]

/-- The group of the arguments that choose a peripheral and its registers. -/
def targetGroups : List ArgGroup := [⟨"target", ["peripheral", "register"]⟩]

/-- The grammar of the command line. -/
def program : Program :=
  { name := "svd-lookup", version := "0.1.0", about := "Query a SVD register database",
    longAbout := some ("Query a SVD register database in various ways.\n\n" ++
      "Depending on the subcommand it generates assembler or Forth definitions for a " ++
      "peripheral's registers, or displays the available peripherals and registers in a " ++
      "human readable way."),
    args := [verboseArg, curdirArg, databaseArg],
    groups := [⟨"global-options", ["verbose", "curdir", "database"]⟩],
    commands := [
      { name := "convert", about := "Convert a .svd file to a database file",
        args := [
          { id := "source", kind := .positional 1 "SOURCE" .path, help := "SVD file to read",
            required := true },
          { id := "output", kind := .positional 2 "OUTPUT" .path,
            help := "Database file to write (defaults to the source with a .db extension)" }],
        groups := [⟨"files", ["source", "output"]⟩] },
      { name := "list", aliases := ["l", "lst"], about := "List the available peripherals",
        args := [] },
      { name := "registers", aliases := ["r", "regs"],
        about := "List the registers of a peripheral", args := [peripheralArg "Peripheral to use"],
        groups := [⟨"named-peripheral", ["peripheral"]⟩] },
      { name := "display", aliases := ["d", "disp"],
        about := "Display the registers and fields of a peripheral", args := targetArgs,
        groups := targetGroups },
      { name := "asm", about := "Generate asm .equ directives defining registers and fields",
        longAbout := some ("Generate asm .equ directives defining registers and fields\n\n" ++
          "A peripheral ending in _n (e.g. TIM_n) emits the base address of every numbered " ++
          "peripheral in the family."),
        args := targetArgs, groups := targetGroups },
      { name := "forth", aliases := ["fc"],
        about := "Generate Forth constants for registers and fields",
        args := targetArgs ++ [addWordsArg "Prepend the modify-reg support word"],
        groups := targetGroups },
      { name := "forth-regs", aliases := ["fr"],
        about := "Generate a Forth registers structure for a peripheral",
        args := targetArgs ++ [addWordsArg "Prepend the registers/reg/bit support words"],
        groups := targetGroups },
      { name := "dump", about := "Dump every peripheral, register and field", args := [] }] }

/-- What the command line asks for. -/
inductive Request
  /-- Write a store file from a device description. -/
  | convert (source : String) (output : Option String)
  /-- List the peripherals. -/
  | list
  /-- List a peripheral's registers. -/
  | registers (peripheral : String)
  /-- Display a peripheral's registers and fields, those whose name contains `register`. -/
  | display (peripheral register : String)
  /-- Generate definitions for a peripheral's registers whose name contains `register`. -/
  | generate (dialect : Dialect) (peripheral register : String) (supportWords : Bool)
  /-- Dump the whole store. -/
  | dump
  deriving Repr, DecidableEq, Inhabited

/-- A command line, understood. -/
structure Invocation where
  verbose : Bool
  curdir : Option String
  database : Option String
  request : Request
  deriving Repr, DecidableEq, Inhabited

/-- The invocation a parsed command line stands for. -/
def Invocation.ofParsed (r : Parsed) : Invocation :=
  let peripheral := (r.value? "peripheral").getD ""
  let register := (r.value? "register").getD ""
  let words := r.flag "addwords"
  let request : Request :=
    if r.command.name == "convert" then .convert ((r.value? "source").getD "") (r.value? "output")
    else if r.command.name == "list" then .list
    else if r.command.name == "registers" then .registers peripheral
    else if r.command.name == "display" then .display peripheral register
    else if r.command.name == "asm" then .generate .assembler peripheral register false
    else if r.command.name == "forth" then .generate .forthConstants peripheral register words
    else if r.command.name == "forth-regs" then .generate .forthRegisters peripheral register words
    else .dump
  { verbose := r.flag "verbose", curdir := r.value? "curdir", database := r.value? "database",
    request := request }

/-- How the program ends. -/
structure Outcome where
  status : Nat
  stdout : String
  stderr : String
  deriving Repr, DecidableEq, Inhabited

/-- A successful end printing `text`. -/
def printed (text : String) : Outcome := { status := 0, stdout := text, stderr := "" }

/-- A failed end: the failure and the contexts it arose in, outermost first. -/
def failed (chain : List String) : Outcome :=
  { status := 1, stdout := "", stderr := "Error: " ++ ": ".intercalate chain ++ "\n" }

/-- An error with its causes. -/
def chainOf (e : AtlasError) : List String := e.message :: e.causes

section Running

variable [Monad m] [FileSystem m] [LogSink m]

/-- Convert a description file to a new store file. -/
def runConvert (source : String) (output : Option String) : m Outcome := do
  let out := output.getD (Path.withExtension source "db")
  let existed := (← FileSystem.kind out).isSome
  match ← convert source out with
  | .ok s =>
    return printed ("Wrote " ++ out ++ ": " ++ toString s.peripherals ++ " peripherals, " ++
      toString s.registers ++ " registers, " ++ toString s.fields ++ " fields\n")
  | .error e =>
    let left := !existed && (← FileSystem.kind out).isSome
    let context := if left then
        "Conversion of " ++ source ++ " failed; " ++ out ++ " is incomplete and should be deleted"
      else "Conversion of " ++ source ++ " failed"
    return failed (context :: chainOf e)

/-- The text a request prints from a store, or its failure. -/
def answer (s : Store) (verbose : Bool) : Request → m (Except (List String) String)
  | .list => return (listPeripherals s verbose).mapError chainOf
  | .registers p => return (listRegisters s p verbose).mapError chainOf
  | .display p r => return (display s p (RegisterFilter.containing r) verbose).mapError chainOf
  | .generate d p r w => do
    if d == .assembler then
      match expansionNote p (expand s p) with
      | some record => LogSink.emit record
      | none => pure ()
    return (generate s p d { filter := RegisterFilter.containing r, supportWords := w }).mapError
      fun e => ("Failed to generate " ++ d.name ++ " for " ++ p) :: chainOf e
  | .dump => return (dump s).mapError chainOf
  | .convert _ _ => return .error ["convert does not read a database"]

/-- Where a request takes its store from. -/
def storeLocation (inv : Invocation) : m (Except (List String) StoreLocation) := do
  match inv.database, inv.curdir with
  | some d, _ => return .ok (.file d)
  | none, some c => return .ok (.searchFrom c)
  | none, none =>
    match ← FileSystem.currentDir with
    | .ok d => return .ok (.searchFrom d)
    | .error e => return .error ["Failed to get the current directory", e.message]

/-- Carry out an invocation. -/
def execute (inv : Invocation) : m Outcome := do
  match inv.request with
  | .convert source output =>
    if inv.curdir.isSome || inv.database.isSome then
      return failed ["the -c and -d flags are ignored and should not be used with convert"]
    else runConvert source output
  | request =>
    match ← storeLocation inv with
    | .error chain => return failed chain
    | .ok location =>
      match ← location.locate with
      | .error e => return failed (chainOf e)
      | .ok path =>
        logAt .debug ("Using database " ++ path)
        match ← Store.openFile path with
        | .error e => return failed (("Failed to open " ++ path) :: chainOf e)
        | .ok s =>
          match ← answer s inv.verbose request with
          | .ok text => return printed text
          | .error chain => return failed chain

/-- Run the program on its arguments (without the program name). -/
def run (args : List String) : m Outcome :=
  match parse program args with
  | .error f => return { status := f.status, stdout := f.stdout, stderr := f.stderr }
  | .ok r => execute (Invocation.ofParsed r)

end Running

end Lookup

end RegisterAtlas
