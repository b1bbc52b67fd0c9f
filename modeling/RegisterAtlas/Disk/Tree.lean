import RegisterAtlas.Disk.Error
/-!
# A directory tree

A model of the part of a Unix file system that the store and the command line use: files holding
bytes and directories, addressed by absolute component lists. There are no links, so a path's
canonical form is the component list it resolves to.

A path text is resolved from the root when it starts with `/` and from a working directory
otherwise. Empty and `.` components stay where they are, `..` goes to the parent (the root is its
own parent), and every other component must name a directory unless it is the last one.

* `Disk.resolve` finds where a path leads and what is there, or why it leads nowhere.
* `Disk.read`, `Disk.createFile`, `Disk.writeFile`, `Disk.writeAt`, `Disk.removeFile`,
  `Disk.createDirAll` and `Disk.canonicalize` behave as the corresponding system calls, with
  the same errors.
-/

namespace RegisterAtlas

/-- What a path may name: a file with its bytes, or a directory. -/
inductive Entry
  /-- A regular file. -/
  | file (bytes : ByteArray)
  /-- A directory. -/
  | dir
  deriving Inhabited

/-- Whether an entry is a file or a directory, without its content. -/
inductive EntryKind
  /-- A regular file. -/
  | file
  /-- A directory. -/
  | dir
  deriving Repr, DecidableEq, Inhabited

/-- The kind of an entry. -/
def Entry.kind : Entry → EntryKind
  | .file _ => .file
  | .dir => .dir

/-- A location: the components from the root. -/
abbrev Location := List String

/-- A directory tree: the locations that name something, each once, with what they name. -/
structure Disk where
  /-- The named locations and their entries. -/
  entries : List (Location × Entry)

instance : Inhabited Disk := ⟨⟨[]⟩⟩

/-- The entry at an absolute location, if any. -/
def Disk.entry (d : Disk) (l : Location) : Option Entry :=
  (d.entries.find? (·.1 == l)).map (·.2)

/-- The text of a location, as an absolute path. -/
def Location.render (l : Location) : String := "/" ++ "/".intercalate l

/-- The parent location (the root is its own parent). -/
def Location.parent (l : Location) : Location := l.dropLast

/-- The components of a path text, split at every `/`, empty ones included. -/
def splitPath (s : String) : List String := (s.toList.splitOn '/').map String.ofList

namespace Disk

/-- Set what a location names. -/
def set (d : Disk) (l : Location) (e : Option Entry) : Disk :=
  let others := d.entries.filter (·.1 != l)
  match e with
  | some e => ⟨(l, e) :: others⟩
  | none => ⟨others⟩

/-- A tree holding just the root directory and the given directories (with their ancestors
left to the caller). -/
def withDirs (dirs : List Location) : Disk :=
  dirs.foldl (fun d l => d.set l (some .dir)) ⟨[([], .dir)]⟩

/-- Walk the components of a path from `here`, each one but the last naming a directory. The
result is the location of the last component, or why the walk stopped. -/
def walk (d : Disk) : Location → List String → Except OsError Location
  | here, [] => .ok here
  | here, [c] =>
    if c = "" || c = "." then .ok here
    else if c = ".." then .ok here.parent
    else .ok (here ++ [c])
  | here, c :: rest =>
    if c = "" || c = "." then d.walk here rest
    else if c = ".." then d.walk here.parent rest
    else
      match d.entry (here ++ [c]) with
      | some .dir => d.walk (here ++ [c]) rest
      | some (.file _) => .error .notDirectory
      | none => .error .notFound

/-- Where a path text leads from the working directory `cwd`, and what is there. A path with a
NUL character is refused before anything else, the empty path leads nowhere, and a path that
ends in `/` must name a directory if it names anything. -/
def resolve (d : Disk) (cwd : Location) (p : String) : Except OsError (Location × Option Entry) :=
  let start := if p.startsWith "/" then [] else cwd
  if p.contains '\x00' then .error .nulInName else
  if p.isEmpty then .error .notFound else
  match d.walk start (splitPath p) with
  | .error e => .error e
  | .ok l =>
    match d.entry l with
    | some (.file _) => if p.endsWith "/" then .error .notDirectory else .ok (l, d.entry l)
    | e => .ok (l, e)

/-- Open a file and read all of it. An error in opening is `.inl`, an error in reading `.inr`;
a directory opens but cannot be read. -/
def read (d : Disk) (cwd : Location) (p : String) : Except (OsError ⊕ OsError) ByteArray :=
  match d.resolve cwd p with
  | .error e => .error (.inl e)
  | .ok (_, none) => .error (.inl .notFound)
  | .ok (_, some .dir) => .error (.inr .isDirectory)
  | .ok (_, some (.file b)) => .ok b

/-- What a path names, if it resolves. -/
def kind? (d : Disk) (cwd : Location) (p : String) : Option EntryKind :=
  match d.resolve cwd p with
  | .ok (_, some e) => some e.kind
  | _ => none

/-- The components of a path text without the empty ones its trailing slashes give. -/
def coreParts (p : String) : List String :=
  ((splitPath p).reverse.dropWhile (· = "")).reverse

/-- Whether a path ends in a plain name (not `.` or `..`) with a slash after it: such a path
cannot be created as a file. -/
def namesDirOnly (p : String) : Bool :=
  (coreParts p).length < (splitPath p).length &&
    match (coreParts p).getLast? with
    | some c => c ≠ "." && c ≠ ".."
    | none => false

/-- Where a file is to be created: like `resolve`, except that once the directories leading to
it are found, a plain name followed by a slash is a directory whatever is there. -/
def resolveNew (d : Disk) (cwd : Location) (p : String) :
    Except OsError (Location × Option Entry) :=
  if namesDirOnly p && !p.contains '\x00' then
    match d.walk (if p.startsWith "/" then [] else cwd) (coreParts p) with
    | .error e => .error e
    | .ok _ => .error .isDirectory
  else d.resolve cwd p

/-- Create an empty file where nothing is yet. -/
def createFile (d : Disk) (cwd : Location) (p : String) : Except OsError Disk :=
  match d.resolveNew cwd p with
  | .error e => .error e
  | .ok (_, some _) => .error .alreadyExists
  | .ok (l, none) => .ok (d.set l (some (.file ByteArray.empty)))

/-- Replace a file's content, creating the file if needed. -/
def writeFile (d : Disk) (cwd : Location) (p : String) (b : ByteArray) : Except OsError Disk :=
  match d.resolveNew cwd p with
  | .error e => .error e
  | .ok (_, some .dir) => .error .isDirectory
  | .ok (l, _) => .ok (d.set l (some (.file b)))

/-- The bytes `b` written over `old` from `offset` on, with zero bytes filling any gap. -/
def patch (old : ByteArray) (offset : Nat) (b : ByteArray) : ByteArray :=
  old.extract 0 offset ++ ⟨Array.replicate (offset - old.size) 0⟩ ++ b ++
    old.extract (offset + b.size) old.size

/-- Write bytes into an open file at an offset. A file that has been removed since it was opened
takes the bytes without a trace in the tree. -/
def writeAt (d : Disk) (l : Location) (offset : Nat) (b : ByteArray) : Disk :=
  match d.entry l with
  | some (.file old) => d.set l (some (.file (patch old offset b)))
  | _ => d

/-- Remove a file; whether there was one. -/
def removeFile (d : Disk) (cwd : Location) (p : String) : Bool × Disk :=
  match d.resolve cwd p with
  | .ok (l, some (.file _)) => (true, d.set l none)
  | _ => (false, d)

/-- Make one directory: every component but the last must name a directory, and the last must
name nothing yet. -/
def makeDir (d : Disk) (start : Location) (parts : List String) : Except OsError Disk :=
  match d.walk start parts with
  | .error e => .error e
  | .ok l =>
    match d.entry l with
    | some _ => .error .alreadyExists
    | none => .ok (d.set l (some .dir))

/-- Whether the components lead to a directory. -/
def isDirAt (d : Disk) (start : Location) (parts : List String) : Bool :=
  match d.walk start parts with
  | .ok l => match d.entry l with
    | some .dir => true
    | _ => false
  | .error _ => false

/-- Make a directory and, when its parent is missing, the parent first (recursively). A
directory that exists already is no error. -/
def createDirParts (d : Disk) (start : Location) : List String → Except OsError Disk
  | [] => .ok d
  | p :: ps =>
    match d.makeDir start (p :: ps) with
    | .ok d' => .ok d'
    | .error .notFound =>
      match d.createDirParts start (p :: ps).dropLast with
      | .error e => .error e
      | .ok d' =>
        match d'.makeDir start (p :: ps) with
        | .ok d'' => .ok d''
        | .error e => if d'.isDirAt start (p :: ps) then .ok d' else .error e
    | .error e => if d.isDirAt start (p :: ps) then .ok d else .error e
termination_by parts => parts.length
decreasing_by simp [List.length_dropLast]

/-- The components of a path text as a path's parent steps see them: empty and `.` components
are dropped, except a `.` that starts the path. -/
def pathSteps (p : String) : List String :=
  match splitPath p with
  | "." :: rest => "." :: rest.filter (fun c => c ≠ "" && c ≠ ".")
  | parts => parts.filter (fun c => c ≠ "" && c ≠ ".")

/-- Create a directory named by a path text, with its missing ancestors. -/
def createDirAll (d : Disk) (cwd : Location) (p : String) : Except OsError Disk :=
  let start := if p.startsWith "/" then [] else cwd
  if p.isEmpty then .ok d
  else if p.contains '\x00' then .error .nulInName
  else
    match d.createDirParts start (pathSteps p) with
    | .ok d' => .ok d'
    | .error e => if d.isDirAt start (pathSteps p) then .ok d else .error e

/-- The canonical absolute form of a path: every component must exist. -/
def canonicalize (d : Disk) (cwd : Location) (p : String) : Except OsError Location :=
  match d.resolve cwd p with
  | .error e => .error e
  | .ok (_, none) => .error .notFound
  | .ok (l, some _) => .ok l

end Disk

end RegisterAtlas
