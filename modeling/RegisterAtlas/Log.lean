/-!
# Log records

The library reports its progress as log records: a level and a message. Where the records go is
the caller's choice, through the `LogSink` of the monad the library runs in.
-/

namespace RegisterAtlas

/-- The severity of a log record, most severe first. -/
inductive Level
  /-- A failure. -/
  | error
  /-- Something suspicious that does not stop the work. -/
  | warn
  /-- Progress of the work. -/
  | info
  /-- Detail for following the work. -/
  | debug
  /-- Finer detail still. -/
  | trace
  deriving Repr, DecidableEq, Inhabited

/-- The level's name in capitals. -/
def Level.name : Level → String
  | .error => "ERROR"
  | .warn => "WARN"
  | .info => "INFO"
  | .debug => "DEBUG"
  | .trace => "TRACE"

/-- The level's rank: more severe levels have smaller ranks. -/
def Level.rank : Level → Nat
  | .error => 1
  | .warn => 2
  | .info => 3
  | .debug => 4
  | .trace => 5

/-- A log record. -/
structure LogRecord where
  level : Level
  message : String
  deriving Repr, DecidableEq, Inhabited

/-- The record as `LEVEL message`. -/
def LogRecord.render (r : LogRecord) : String := r.level.name ++ " " ++ r.message

/-- Where log records go. -/
class LogSink (m : Type → Type) where
  /-- Hand over one record. -/
  emit : LogRecord → m Unit

/-- Emit a record at the given level. -/
def logAt [LogSink m] (level : Level) (message : String) : m Unit :=
  LogSink.emit ⟨level, message⟩

end RegisterAtlas
