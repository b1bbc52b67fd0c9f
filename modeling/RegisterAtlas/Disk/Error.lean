/-!
# File system errors

Why an operation on the directory tree fails, each with the text the operating system gives
for it.
-/

namespace RegisterAtlas

/-- Why a file system operation fails. -/
inductive OsError
  /-- A path names nothing. -/
  | notFound
  /-- A path goes through a file as if it were a directory. -/
  | notDirectory
  /-- A path names a directory where a file was expected. -/
  | isDirectory
  /-- A path to be created names something already. -/
  | alreadyExists
  /-- A file read as text is not valid UTF-8. -/
  | invalidUtf8
  /-- A path text holds a NUL character, which no file name can hold. -/
  | nulInName
  /-- Any other failure, with the system's error number and text. -/
  | other (code : Nat) (text : String)
  deriving Repr, DecidableEq

/-- The text of a file system error. -/
def OsError.message : OsError → String
  | .notFound => "No such file or directory (os error 2)"
  | .notDirectory => "Not a directory (os error 20)"
  | .isDirectory => "Is a directory (os error 21)"
  | .alreadyExists => "File exists (os error 17)"
  | .invalidUtf8 => "stream did not contain valid UTF-8"
  | .nulInName => "file name contained an unexpected NUL byte"
  | .other code text => text ++ " (os error " ++ toString code ++ ")"

end RegisterAtlas
