import RegisterAtlas.Disk.System
/-!
# Buffered writing

A file open for writing through a buffer, as the standard library's buffered writer keeps one.
Bytes gather in a buffer of 8 KiB and go to the file when the buffer is flushed, or when more
bytes come than the buffer has room for; bytes as many as the buffer holds, or more, go to the
file directly.

The file takes each write whole or refuses it. A refused flush keeps every byte in the buffer,
to go out with the next flush; a refused direct write leaves nothing behind.

* `Writer.writeAll` writes bytes through the buffer, `Writer.flush` hands the buffer to the file.
* `Writer.appendLine` writes a line and its line feed and flushes, as a journal writes an entry.
* `Writer.release` is what dropping the writer does: one more flush, whose refusal is ignored.
-/

namespace RegisterAtlas

/-- The capacity of a writer's buffer, in bytes. -/
def bufferCapacity : Nat := 8192

/-- A file open for writing through a buffer: the file's path, the offset its next write goes
to, and the bytes waiting in the buffer. -/
structure Writer where
  path : String
  offset : Nat
  pending : ByteArray := .empty
  deriving Inhabited

/-- Writers are alike when their paths, offsets and buffered bytes are. -/
instance : DecidableEq Writer := fun a b =>
  decidable_of_iff (a.path = b.path ∧ a.offset = b.offset ∧ a.pending.data = b.pending.data) (by
    obtain ⟨p, o, ⟨d⟩⟩ := a
    obtain ⟨p', o', ⟨d'⟩⟩ := b
    simp)

namespace Writer

variable {m : Type → Type} [Monad m] [FileSystem m]

/-- Write bytes to the file at the writer's offset, past the buffer. -/
def writeThrough (w : Writer) (b : ByteArray) : m (Except OsError Unit × Writer) := do
  match ← FileSystem.writeAt w.path w.offset b with
  | .ok () => return (.ok (), { w with offset := w.offset + b.size })
  | .error e => return (.error e, w)

/-- Hand the buffer to the file; a refusal keeps the bytes buffered, and an empty buffer writes
nothing. The file itself keeps nothing back, so this is all a flush does. -/
def flush (w : Writer) : m (Except OsError Unit × Writer) := do
  if w.pending.isEmpty then return (.ok (), w)
  match ← w.writeThrough w.pending with
  | (.ok (), w') => return (.ok (), { w' with pending := .empty })
  | (.error e, w') => return (.error e, w')

/-- Write all of `b`: into the buffer when it has room. Otherwise the buffer goes to the file
first if `b` does not fit beside it, and `b` then joins the buffer, or goes to the file directly
when it is as large as the buffer. -/
def writeAll (w : Writer) (b : ByteArray) : m (Except OsError Unit × Writer) := do
  if b.size < bufferCapacity - w.pending.size then
    return (.ok (), { w with pending := w.pending ++ b })
  let (r, w) ← if b.size > bufferCapacity - w.pending.size then w.flush else pure (.ok (), w)
  match r with
  | .error e => return (.error e, w)
  | .ok () =>
    if b.size ≥ bufferCapacity then w.writeThrough b
    else return (.ok (), { w with pending := w.pending ++ b })

/-- Write a line and then its line feed, and flush, stopping at the first refusal. -/
def appendLine (w : Writer) (line : ByteArray) : m (Except OsError Unit × Writer) := do
  match ← w.writeAll line with
  | (.error e, w) => return (.error e, w)
  | (.ok (), w) =>
    match ← w.writeAll "\n".toUTF8 with
    | (.error e, w) => return (.error e, w)
    | (.ok (), w) => w.flush

/-- Drop the writer: the buffer goes to the file if the file takes it. -/
def release (w : Writer) : m Unit := discard w.flush

end Writer

end RegisterAtlas
