import RegisterAtlas.Store.Basic
import RegisterAtlas.Disk.Path
import RegisterAtlas.Text.Blank
/-!
# Store files

Creating, opening and finding the file of a store.

* `Store.create` makes a new journal file holding only the header; an existing file is never
  overwritten.
* `Store.open` reads a journal file into a read-only store. The first line must be the header;
  every later line that is not blank must be an entry, whose row fits its table and whose id
  is above the last id of that table. Lines are split at line feeds, a carriage return before
  the line feed dropped, and each must be UTF-8.
* `findUpwards` looks for a file name in a directory and then in each of its ancestors, from
  the directory's canonical form.
* `StoreLocation` is where read commands take their store from: a given file, or the first
  `default-svd.db` found upwards from a directory.
-/

namespace RegisterAtlas

/-- The file name searched for when no store file is given. -/
def defaultStoreName : String := "default-svd.db"

/-- The lines of a byte text as a line reader returns them: split at line feeds, a carriage
return before a line feed dropped, and no empty line after a final line feed. -/
def splitLines (bytes : List UInt8) : List (List UInt8) :=
  let rec go : List UInt8 → List UInt8 → List (List UInt8)
    | [], cur => if cur.isEmpty then [] else [cur.reverse]
    | b :: rest, cur =>
      if b = 10 then
        let line := match cur with
          | 13 :: more => more
          | _ => cur
        line.reverse :: go rest []
      else go rest (b :: cur)
  go bytes []

/-- A byte line as text, if it is UTF-8. -/
def lineText (line : List UInt8) : Option String := String.fromUTF8? ⟨line.toArray⟩

/-- The failure of a store file as a whole. -/
def storeFailure (path reason : String) : AtlasError := .queryFailure "store" path reason

/-- Append a replayed row to its table, refusing an id that is not above the table's last. -/
def Tables.replay [Entity α] (t : Tables) (id : RowId) (row : α) : Except AtlasError Tables :=
  match (Entity.rows t : Array (Stored α)).back? with
  | some last =>
    if last.id ≥ id then .error (.rowFailure (Entity.table α).name id "journal ids out of order")
    else .ok (t.push (⟨id, row⟩ : Stored α))
  | none => .ok (t.push (⟨id, row⟩ : Stored α))

/-- Replay one journal entry into the tables. -/
def Tables.replayEntry (t : Tables) (e : JournalEntry) : Except AtlasError Tables :=
  match Row.decode e.table e.row with
  | .error err => .error (.rowFailure e.table.name e.id err.render)
  | .ok (.mpu r) => t.replay e.id r
  | .ok (.peripheral r) => t.replay e.id r
  | .ok (.register r) => t.replay e.id r
  | .ok (.field r) => t.replay e.id r

/-- Replay the lines after the header, numbered from `n`. -/
def replayLines (path : String) : Tables → Nat → List (List UInt8) → Except AtlasError Tables
  | t, _, [] => .ok t
  | t, n, line :: rest =>
    match lineText line with
    | none => .error (.io .invalidUtf8)
    | some text =>
      if (Text.trim text).isEmpty then replayLines path t (n + 1) rest
      else
        match readEntry text with
        | .error e => .error (storeFailure path ("line " ++ toString n ++ ": " ++ e.render))
        | .ok entry =>
          match t.replayEntry entry with
          | .error e => .error e
          | .ok t' => replayLines path t' (n + 1) rest

/-- The tables a journal file holds. -/
def readJournal (path : String) (bytes : List UInt8) : Except AtlasError Tables :=
  let notStore := storeFailure path "not an svd database (missing or unknown header)"
  match splitLines bytes with
  | [] => .error notStore
  | header :: rest =>
    match lineText header with
    | none => .error (.io .invalidUtf8)
    | some h => if readHeader h then replayLines path {} 2 rest else .error notStore

namespace Store

variable [Monad m] [FileSystem m] [LogSink m]

/-- Create a new, empty store file; an existing file is never overwritten. The header goes into
the new file's writer piece by piece, then a line feed, and the writer is flushed; a writer given
up on is dropped, which flushes it once more. -/
def create (path : String) : m (Except AtlasError Store) := do
  match ← FileSystem.createFile path with
  | .error .alreadyExists => return .error (.storeExists path)
  | .error e => return .error (.io e)
  | .ok () =>
    let w : Writer := { path := path, offset := 0 }
    -- the header's pieces all fit in the empty buffer, so they are written as one
    match ← w.writeAll headerLine.toUTF8 with
    | (.error e, w) => w.release; return .error (storeFailure path e.message)
    | (.ok (), w) =>
      match ← w.writeAll "\n".toUTF8 with
      | (.error e, w) => w.release; return .error (.io e)
      | (.ok (), w) =>
        match ← w.flush with
        | (.error e, w) => w.release; return .error (.io e)
        | (.ok (), w) =>
          logAt .debug ("Created store " ++ path)
          return .ok { backing := .journal w, path := some path }

/-- Open an existing store file for reading. -/
def openFile (path : String) : m (Except AtlasError Store) := do
  match ← FileSystem.readFile path with
  | .error (.inl e) => return .error (.storeNotFound path e.message)
  | .error (.inr e) => return .error (.io e)
  | .ok bytes =>
    match readJournal path bytes.toList with
    | .error e => return .error e
    | .ok t =>
      logAt .debug ("Opened store " ++ path ++ " (" ++ toString t.peripherals.size ++
        " peripherals, " ++ toString t.registers.size ++ " registers, " ++
        toString t.fields.size ++ " fields)")
      return .ok { tables := t, backing := .readOnly, path := some path }

end Store

/-- The parent of a canonical absolute path, none for the root. -/
def canonicalParent (p : String) : Option String :=
  if p = "/" then none
  else
    let cs := p.toList
    match (cs.reverse.findIdx? (· = '/')) with
    | some k =>
      let slash := cs.length - 1 - k
      if slash = 0 then some "/" else some (String.ofList (cs.take slash))
    | none => none

/-- A canonical absolute path and its ancestors, nearest first. -/
def canonicalAncestors (p : String) : List String :=
  let rec go : Nat → String → List String
    | 0, q => [q]
    | fuel + 1, q =>
      match canonicalParent q with
      | some r => q :: go fuel r
      | none => [q]
  go p.length p

/-- Look for `name` in `start` and then in each of its ancestors. -/
def findUpwards [Monad m] [FileSystem m] [LogSink m] (start name : String) :
    m (Except AtlasError String) := do
  match ← FileSystem.canonicalize start with
  | .error e => return .error (.storeNotFound (Path.join start name) e.message)
  | .ok canon =>
    let rec scan : List String → m (Option String)
      | [] => pure none
      | dir :: rest => do
        let candidate := Path.join dir name
        if (← FileSystem.kind candidate) == some .file then
          logAt .debug ("Found store " ++ candidate)
          return some candidate
        else scan rest
    match ← scan (canonicalAncestors canon) with
    | some found => return .ok found
    | none => return .error (.storeNotFound name ("searched upwards from " ++ canon))

/-- Where read commands take their store from. -/
inductive StoreLocation
  /-- Exactly this file. -/
  | file (path : String)
  /-- The first `default-svd.db` in this directory or an ancestor. -/
  | searchFrom (dir : String)
  deriving Repr, DecidableEq

/-- The store file of a location. -/
def StoreLocation.locate [Monad m] [FileSystem m] [LogSink m] :
    StoreLocation → m (Except AtlasError String)
  | .file p => return .ok p
  | .searchFrom dir => findUpwards dir defaultStoreName

/-- Open the store file of a location. -/
def StoreLocation.openStore [Monad m] [FileSystem m] [LogSink m] (l : StoreLocation) :
    m (Except AtlasError Store) := do
  match ← l.locate with
  | .error e => return .error e
  | .ok p => Store.openFile p

end RegisterAtlas
