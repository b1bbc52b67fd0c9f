import RegisterAtlas.Lookup
/-!
# Work sessions

A session works on one store at a time, in a private directory of a modelled machine. It starts
with an empty in-memory store and an empty directory; each step acts on the store or on the
files of the directory and answers a value or an error.

A step that fails leaves the current store as it was, except that an ingestion keeps every row
committed before its error. Converting a file writes a new store file but leaves the current
store alone.

* `Step` lists what a step may do, `Answer` what it may answer.
* `Bench.run` performs a step and collects the log records it emitted.
* `Bench.present` shows the session directory as `<dir>` in texts that name its files.
-/

namespace RegisterAtlas

/-- The session directory on the modelled machine, a fresh temporary directory. -/
def sessionDir : String := "/tmp/.tmpq7Rb2x"

/-- What a session step does. -/
inductive Step
  /-- Read a device description and ingest it into the current store. -/
  | ingest (svd : String)
  /-- Insert a row into the current store. -/
  | insert (row : Row)
  /-- All rows of a table. -/
  | rows (t : Table)
  /-- The row of a table with an id. -/
  | get (t : Table) (id : RowId)
  /-- The rows of a table owned by a parent. -/
  | children (t : Table) (parent : RowId)
  /-- The number of rows of a table. -/
  | count (t : Table)
  /-- The MPU's name. -/
  | mpuName
  /-- The peripherals matching a pattern, by name. -/
  | fetchLike (pattern : String)
  /-- The first peripheral matching a pattern. -/
  | fetchByName (pattern : String)
  /-- A peripheral with its registers and fields. -/
  | resolve (name : String)
  /-- What a peripheral name stands for. -/
  | expand (name : String)
  /-- The peripherals report. -/
  | listPeripherals (verbose : Bool)
  /-- The registers report of a peripheral. -/
  | listRegisters (peripheral : String) (verbose : Bool)
  /-- The display report of a peripheral. -/
  | display (peripheral : String) (filter : Option String) (verbose : Bool)
  /-- The dump report. -/
  | dump
  /-- Generated definitions of a peripheral. -/
  | generate (peripheral : String) (dialect : Dialect) (filter : String) (supportWords : Bool)
  /-- Replace the store with an empty in-memory one. -/
  | memory
  /-- Create the default store file and use it. -/
  | create
  /-- Open a store file and use it. -/
  | openStore (path : Option String)
  /-- Write a description to `source.svd` and convert it into a store file. -/
  | convertText (svd : String) (output : Option String)
  /-- Convert a description file into a store file. -/
  | convertFile (source : String) (output : Option String)
  /-- Write a file. -/
  | putFile (path : Option String) (bytes : ByteArray)
  /-- The current store's file. -/
  | storePath
  /-- Run the command line. -/
  | cli (args : List String) (cwd : Option String)
  /-- Read a file as text. -/
  | fileText (path : Option String)
  /-- Remove a file, after replacing the store with an in-memory one. -/
  | unlink (path : Option String)
  /-- Make a directory and its missing ancestors. -/
  | mkdir (path : String)
  /-- Locate a store file: the given file, or a search upwards from a directory. -/
  | locate (start : String) (explicit : Bool)
  /-- Locate a store file and open it. -/
  | openLocated (start : String) (explicit : Bool)

/-- What a session step answers. -/
inductive Answer
  /-- Nothing. -/
  | unit
  /-- A row id. -/
  | id (i : RowId)
  /-- A number of rows. -/
  | count (n : Nat)
  /-- A truth value. -/
  | flag (b : Bool)
  /-- A text. -/
  | text (s : String)
  /-- A text that may be absent. -/
  | optText (s : Option String)
  /-- Rows with their ids. -/
  | rows (rs : List (RowId × Row))
  /-- One row with its id. -/
  | row (id : RowId) (r : Row)
  /-- The counts of an ingestion. -/
  | summary (s : Summary)
  /-- A resolved peripheral. -/
  | resolved (p : ResolvedPeripheral)
  /-- An expansion. -/
  | expansion (e : Expansion)
  /-- The exit status and the output texts of a command line run. -/
  | outcome (status : Nat) (stdout stderr : String)

/-- A session: the current store and the machine its files live on. -/
structure Bench where
  store : Store := Store.inMemory
  machine : Machine

/-- The machine of a new session: the root, `/tmp` and the empty session directory. -/
def freshMachine : Machine :=
  { disk := Disk.withDirs [["tmp"], ["tmp", ".tmpq7Rb2x"]], cwd := ["tmp", ".tmpq7Rb2x"] }

/-- A new session. -/
def Bench.fresh : Bench := { machine := freshMachine }

/-- Replace every occurrence of `pat` in `s` by `rep`. -/
def replaceAll (s pat rep : String) : String := rep.intercalate (s.splitOn pat)

/-- A text as the session shows it: the session directory written `<dir>`. -/
def Bench.present (s : String) : String := replaceAll s sessionDir "<dir>"

/-- A path of the session directory. -/
def inSession (p : String) : String := Path.join sessionDir p

/-- The rows of a table with their ids, as rows of any table. -/
def tableRows (s : Store) : Table → List (RowId × Row)
  | .mpus => (s.all : Array (Stored MpuRow)).toList.map fun r => (r.id, .mpu r.row)
  | .peripherals => (s.all : Array (Stored PeripheralRow)).toList.map fun r => (r.id, .peripheral r.row)
  | .registers => (s.all : Array (Stored RegisterRow)).toList.map fun r => (r.id, .register r.row)
  | .fields => (s.all : Array (Stored FieldRow)).toList.map fun r => (r.id, .field r.row)

/-- The row of a table with an id. -/
def tableGet (s : Store) (t : Table) (id : RowId) : Except AtlasError (RowId × Row) :=
  match t with
  | .mpus => (s.get id : Except AtlasError (Stored MpuRow)).map fun r => (r.id, .mpu r.row)
  | .peripherals =>
    (s.get id : Except AtlasError (Stored PeripheralRow)).map fun r => (r.id, .peripheral r.row)
  | .registers =>
    (s.get id : Except AtlasError (Stored RegisterRow)).map fun r => (r.id, .register r.row)
  | .fields => (s.get id : Except AtlasError (Stored FieldRow)).map fun r => (r.id, .field r.row)

/-- The rows of a table owned by a parent; MPUs have no parent. -/
def tableChildren (s : Store) (t : Table) (parent : RowId) : List (RowId × Row) :=
  match t with
  | .mpus => []
  | .peripherals => (s.children parent : Array (Stored PeripheralRow)).toList.map
      fun r => (r.id, .peripheral r.row)
  | .registers => (s.children parent : Array (Stored RegisterRow)).toList.map
      fun r => (r.id, .register r.row)
  | .fields => (s.children parent : Array (Stored FieldRow)).toList.map
      fun r => (r.id, .field r.row)

/-- The number of rows of a table. -/
def tableCount (s : Store) : Table → Nat
  | .mpus => s.count MpuRow
  | .peripherals => s.count PeripheralRow
  | .registers => s.count RegisterRow
  | .fields => s.count FieldRow

/-- Insert a row of any table. -/
def insertRow (s : Store) : Row → Sim (Except AtlasError RowId × Store)
  | .mpu r => s.insert r
  | .peripheral r => s.insert r
  | .register r => s.insert r
  | .field r => s.insert r

/-- The answer of a step that does not change the store. -/
def keep (s : Store) (r : Except AtlasError Answer) : Except AtlasError Answer × Store := (r, s)

/-- Perform a step on a store, on the modelled machine. -/
def Bench.perform (s : Store) : Step → Sim (Except AtlasError Answer × Store)
  | .ingest svd =>
    match Device.read svd with
    | .error e => return (.error (.source e), s)
    | .ok d => do
      let (r, s') ← ingest s d
      return (r.map .summary, s')
  | .insert row => do
    let (r, s') ← insertRow s row
    return (r.map .id, s')
  | .rows t => return keep s (.ok (.rows (tableRows s t)))
  | .get t id => return keep s ((tableGet s t id).map fun (i, r) => .row i r)
  | .children t parent => return keep s (.ok (.rows (tableChildren s t parent)))
  | .count t => return keep s (.ok (.count (tableCount s t)))
  | .mpuName => return keep s ((mpuName s).map .text)
  | .fetchLike p =>
    return keep s (.ok (.rows ((fetchPeripheralsLike s p).map fun r => (r.id, .peripheral r.row))))
  | .fetchByName p =>
    return keep s ((fetchPeripheralByName s p).map fun r => .row r.id (.peripheral r.row))
  | .resolve n => return keep s ((resolve s n).map .resolved)
  | .expand n => do
    let e := expand s n
    if let some r := expansionNote n e then LogSink.emit r
    return keep s (.ok (.expansion e))
  | .listPeripherals v => return keep s ((listPeripherals s v).map .text)
  | .listRegisters p v => return keep s ((listRegisters s p v).map .text)
  | .display p f v =>
    let filter := match f with
      | some pat => RegisterFilter.containing pat
      | none => RegisterFilter.all
    return keep s ((display s p filter v).map .text)
  | .dump => return keep s ((dump s).map .text)
  | .generate p d f w => do
    if d = .assembler then
      if let some r := expansionNote p (expand s p) then LogSink.emit r
    return keep s ((generate s p d { filter := RegisterFilter.containing f, supportWords := w }).map .text)
  | .memory => return (.ok .unit, Store.inMemory)
  | .create => do
    match ← Store.create (inSession "store.db") with
    | .ok s' => return (.ok .unit, s')
    | .error e => return (.error e, s)
  | .openStore path => do
    match ← Store.openFile (inSession (path.getD "store.db")) with
    | .ok s' => return (.ok .unit, s')
    | .error e => return (.error e, s)
  | .convertText svd output => do
    let source := inSession "source.svd"
    let m ← get
    match m.disk.writeFile m.cwd source svd.toUTF8 with
    | .error e => return (.error (.io e), s)
    | .ok d =>
      set { m with disk := d }
      let r ← convert source (inSession (output.getD "store.db"))
      return (r.map .summary, s)
  | .convertFile source output => do
    let r ← convert (inSession source) (inSession (output.getD "store.db"))
    return (r.map .summary, s)
  | .putFile path bytes => do
    let m ← get
    match m.disk.writeFile m.cwd (inSession (path.getD "store.db")) bytes with
    | .error e => return (.error (.io e), s)
    | .ok d => set { m with disk := d }; return (.ok .unit, s)
  | .storePath => return keep s (.ok (.optText s.path))
  | .cli args cwd => do
    let before ← get
    let dir := match cwd with
      | some c => inSession c
      | none => sessionDir
    match before.disk.canonicalize before.cwd dir with
    | .ok here => set { before with cwd := here }
    | .error _ => pure ()
    let o ← Lookup.run args
    modify fun m => { m with cwd := before.cwd, logs := before.logs }
    return keep s (.ok (.outcome o.status o.stdout o.stderr))
  | .fileText path => do
    let m ← get
    match m.disk.read m.cwd (inSession (path.getD "store.db")) with
    | .ok bytes => return keep s (.ok (.optText (String.fromUTF8? bytes)))
    | .error _ => return keep s (.ok (.optText none))
  | .unlink path => do
    let m ← get
    let (removed, d) := m.disk.removeFile m.cwd (inSession (path.getD "store.db"))
    set { m with disk := d }
    return (.ok (.flag removed), Store.inMemory)
  | .mkdir path => do
    let m ← get
    match m.disk.createDirAll m.cwd (inSession path) with
    | .error e => return (.error (.io e), s)
    | .ok d => set { m with disk := d }; return (.ok .unit, s)
  | .locate start explicit => do
    let loc := if explicit then StoreLocation.file (inSession start)
      else StoreLocation.searchFrom (inSession start)
    return keep s ((← loc.locate).map .text)
  | .openLocated start explicit => do
    let loc := if explicit then StoreLocation.file (inSession start)
      else StoreLocation.searchFrom (inSession start)
    match ← loc.openStore with
    | .ok s' => return (.ok .unit, s')
    | .error e => return (.error e, s)

/-- Run a step: its answer and the log records it emitted, and the session after it. -/
def Bench.run (b : Bench) (step : Step) : (Except AtlasError Answer × List LogRecord) × Bench :=
  let ((r, s), m) := (Bench.perform b.store step).run { b.machine with logs := #[] }
  ((r, m.logs.toList), { store := s, machine := { m with logs := #[] } })

end RegisterAtlas
