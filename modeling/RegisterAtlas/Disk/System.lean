import RegisterAtlas.Disk.Tree
import RegisterAtlas.Log
/-!
# File system access

The file operations the store and the command line need, as a class over the monad they run
in, and the directory tree model as one instance of it.

* `FileSystem` reads a whole file, creates a new file, writes into a file at an offset, tells
  what a path names, gives a path's canonical form and the working directory.
* `Machine` is a directory tree with a working directory, the log records emitted so far and
  the writes it will refuse; `Sim` runs on it, with every operation the corresponding `Disk`
  operation and each write first meeting the machine's next fault.
-/

namespace RegisterAtlas

/-- The file operations of the host system. Relative paths are taken from the working
directory. -/
class FileSystem (m : Type → Type) where
  /-- The bytes of a file, or why it cannot be opened (`.inl`) or read (`.inr`). -/
  readFile : String → m (Except (OsError ⊕ OsError) ByteArray)
  /-- Create an empty file where nothing exists yet. -/
  createFile : String → m (Except OsError Unit)
  /-- Write bytes into a file at an offset, as an open handle to it does: all of them, or none
  when the system refuses the write. -/
  writeAt : String → Nat → ByteArray → m (Except OsError Unit)
  /-- What a path names, following links, if anything. -/
  kind : String → m (Option EntryKind)
  /-- The absolute form of a path with no `.`, `..` or link component. -/
  canonicalize : String → m (Except OsError String)
  /-- The working directory, as an absolute path. -/
  currentDir : m (Except OsError String)

/-- A directory tree with a working directory, the log records emitted so far, and what becomes
of the writes to come. -/
structure Machine where
  disk : Disk
  cwd : Location
  logs : Array LogRecord := #[]
  /-- The fate of the next writes, in order: `some e` refuses one with `e` and `none` lets it
  through; every write past the list goes through. -/
  faults : List (Option OsError) := []
  deriving Inhabited

/-- The fate of the machine's next write, and the machine with that fate used up. -/
def Machine.nextFault (m : Machine) : Option OsError × Machine :=
  match m.faults with
  | [] => (none, m)
  | f :: rest => (f, { m with faults := rest })

/-- Computations on a modelled machine. -/
abbrev Sim := StateM Machine

instance : FileSystem Sim where
  readFile p := do
    let m ← get
    return m.disk.read m.cwd p
  createFile p := do
    let m ← get
    match m.disk.createFile m.cwd p with
    | .ok d => set { m with disk := d }; return .ok ()
    | .error e => return .error e
  writeAt p offset b := do
    let (fault, m) := (← get).nextFault
    match fault with
    | some e => set m; return .error e
    | none =>
      match m.disk.resolve m.cwd p with
      | .ok (l, _) => set { m with disk := m.disk.writeAt l offset b }
      | .error _ => set m
      return .ok ()
  kind p := do
    let m ← get
    return m.disk.kind? m.cwd p
  canonicalize p := do
    let m ← get
    return (m.disk.canonicalize m.cwd p).map Location.render
  currentDir := do
    return .ok (← get).cwd.render

instance : LogSink Sim where
  emit r := modify fun m => { m with logs := m.logs.push r }

end RegisterAtlas
