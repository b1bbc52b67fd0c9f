import RegisterAtlas.Lookup
/-!
# The program on the host

`svd-lookup` run on the host's files: the file operations of `FileSystem` on the host file
system, and the outcome of `Lookup.run` printed and returned as the exit status.

* Log records are not printed: standard error carries the error messages only.
* A store is written by appending to its file, which is where the store writes: a journal only
  grows.
-/

namespace RegisterAtlas.Host

/-- Host operations. -/
abbrev HostM := IO

/-- The file system error of a host error. -/
def osError : IO.Error → OsError
  | .noFileOrDirectory _ _ _ => .notFound
  | .alreadyExists _ _ _ => .alreadyExists
  | .inappropriateType _ code text =>
    if code = 21 then .isDirectory
    else if code = 20 then .notDirectory
    else .other code.toNat text
  | e => .other 0 (toString e)

/-- Run a host action, turning its error into a file system error. -/
def attempt (act : IO α) : IO (Except OsError α) := do
  try return .ok (← act) catch e => return .error (osError e)

/-- Run a host action on a path, refusing a path that holds a NUL character before the system
sees it. -/
def onPath (p : String) (act : IO (Except OsError α)) : IO (Except OsError α) :=
  if p.contains '\x00' then return .error .nulInName else act

/-- The bytes of a file, or why it cannot be opened (`.inl`) or read (`.inr`). -/
def readAll (p : String) : IO (Except (OsError ⊕ OsError) ByteArray) := do
  match ← onPath p (attempt (IO.FS.Handle.mk p .read)) with
  | .error e => return .error (.inl e)
  | .ok h =>
    match ← attempt h.readBinToEnd with
    | .error e => return .error (.inr e)
    | .ok bytes => return .ok bytes

/-- What a path names: a file that can be read, a directory, or nothing. -/
def kindOf (p : String) : IO (Option EntryKind) := do
  match ← onPath p (attempt (IO.FS.Handle.mk p .read)) with
  | .error _ => return none
  | .ok h =>
    match ← attempt (h.read 1) with
    | .error .isDirectory => return some .dir
    | _ => return some .file

instance : FileSystem HostM where
  readFile p := readAll p
  createFile p := do
    match ← onPath p (attempt (IO.FS.Handle.mk p .writeNew)) with
    | .error e => return .error e
    | .ok _ => return .ok ()
  writeAt p _ bytes := attempt do
    let h ← IO.FS.Handle.mk p .append
    h.write bytes
    h.flush
  kind p := kindOf p
  canonicalize p := onPath p (attempt do return toString (← IO.FS.realPath p))
  currentDir := attempt do return toString (← IO.currentDir)

/-- Log records are not shown: what the program prints is its reports and messages. -/
instance : LogSink HostM where
  emit _ := pure ()

end RegisterAtlas.Host

open RegisterAtlas in
/-- Run `svd-lookup` on the command line's arguments. -/
def main (args : List String) : IO UInt32 := do
  let o ← (Lookup.run args : Host.HostM Lookup.Outcome)
  IO.print o.stdout
  IO.eprint o.stderr
  return o.status.toUInt32
