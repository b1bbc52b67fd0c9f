import RegisterAtlas.Store.Codec
import RegisterAtlas.Store.Search
import RegisterAtlas.Error
import RegisterAtlas.Disk.Writer
/-!
# The store

The four tables and how they are kept: in memory only, in a journal file that every insert
extends before the row becomes visible, or read from a file and then refused any insert.

Every insert is its own commit: the row is checked against its table's unique column (the name,
for MPUs and peripherals, compared exactly), numbered one past the table's last id (1 for an
empty table), written to the journal if there is one, and then appended to its table. The
journal writes through a buffer and flushes after every line; when the file refuses the line,
the insert fails, the tables stay as they were, and the line stays in the buffer.

* `Store.assignId` is the check and the numbering; `Store.insert` the whole insert, which answers
  and leaves a store whether it succeeds or not.
* `Store.release` is what dropping a store does: a journal flushes its buffer once more.
* `Store.select`, `Store.children`, `Store.get` and `Store.count` read the tables: rows in id
  order, the rows of a parent, the row of an id, the number of rows. The rows of a parent are
  read through the index the tables keep, and the row of an id by binary search.
-/

namespace RegisterAtlas

/-- How a store keeps its rows. -/
inductive Backing
  /-- Never written anywhere. -/
  | memory
  /-- Appended to a journal file through the writer `w`. -/
  | journal (w : Writer)
  /-- Read from a file; inserts are refused. -/
  | readOnly
  deriving DecidableEq, Inhabited

/-- The tables with their backing, and the file they came from or go to. -/
structure Store where
  tables : Tables := {}
  backing : Backing := .memory
  path : Option String := none
  deriving Inhabited

namespace Store

/-- A store that is never written to disk. -/
def inMemory : Store := {}

/-- The rows of `α`'s table that satisfy `p`, in id order. -/
def select [Entity α] (s : Store) (p : α → Bool) : Array (Stored α) :=
  (Entity.rows s.tables).filter (fun r => p r.row)

/-- All rows of `α`'s table, in id order. -/
def all [Entity α] (s : Store) : Array (Stored α) := Entity.rows s.tables

/-- The rows of `α`'s table whose parent is `parent`, at the positions the index notes for it. -/
def children [Entity α] (s : Store) (parent : RowId) : Array (Stored α) :=
  let rows : Array (Stored α) := Entity.rows s.tables
  match s.tables.children.get? (Entity.table α, parent) with
  | some positions => positions.filterMap fun i => rows[i]?
  | none => #[]

/-- The number of rows of `α`'s table. -/
def count (α : Type) [Entity α] (s : Store) : Nat := (Entity.rows s.tables : Array (Stored α)).size

/-- The row of `α`'s table with id `id`, found by binary search on the ids. -/
def get [Entity α] (s : Store) (id : RowId) : Except AtlasError (Stored α) :=
  let rows : Array (Stored α) := Entity.rows s.tables
  match Search.byKey rows (·.id) id with
  | .ok i => .ok rows[i]
  | .error _ => .error (.rowFailure (Entity.table α).name id "no such row")

/-- The id a new row of `α`'s table would get: one past the last, or 1. -/
def nextId (α : Type) [Entity α] (s : Store) : RowId :=
  match (Entity.rows s.tables : Array (Stored α)).back? with
  | some r => r.id.next
  | none => 1

/-- Check a row for insertion: its unique key must be new and the store writable. The result
is the id the row gets. -/
def assignId [Entity α] (s : Store) (row : α) : Except AtlasError RowId :=
  let table := (Entity.table α).name
  let clash := match Entity.uniqueKey row with
    | some key =>
      let rows : Array (Stored α) := Entity.rows s.tables
      if rows.any (fun r => Entity.uniqueKey r.row == some key) then some key else none
    | none => none
  match clash with
  | some key => .error (.queryFailure table key ("UNIQUE constraint failed: " ++ table ++ ".name"))
  | none =>
    let id : RowId := nextId α s
    match s.backing with
    | .readOnly => .error (.rowFailure table id "store was opened read-only")
    | _ => .ok id

/-- Insert a row and return its id, writing the journal line first for a journal store. The
store is returned also when the insert fails: a journal may then hold the line in its buffer. -/
def insert [Monad m] [FileSystem m] [Entity α] (s : Store) (row : α) :
    m (Except AtlasError RowId × Store) := do
  match s.assignId row with
  | .error e => return (.error e, s)
  | .ok id =>
    let stored : Stored α := ⟨id, row⟩
    match s.backing with
    | .journal w =>
      match ← w.appendLine (entryLine id (Entity.toRow row)).toUTF8 with
      | (.error e, w) => return (.error (.io e), { s with backing := .journal w })
      | (.ok (), w) => return (.ok id, { s with tables := s.tables.push stored, backing := .journal w })
    | _ => return (.ok id, { s with tables := s.tables.push stored })

/-- Drop a store: a journal hands its buffer to the file once more. -/
def release [Monad m] [FileSystem m] (s : Store) : m Unit :=
  match s.backing with
  | .journal w => w.release
  | _ => pure ()

end Store

end RegisterAtlas
