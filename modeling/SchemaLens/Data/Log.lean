/-!
# Log records

What an operation reports while it runs. Each operation has its own type of events; a record is
how an event stands in a log.
-/

namespace SchemaLens

/-- How much detail a record belongs to. -/
inductive LogLevel where
  | debug
  | trace
deriving DecidableEq, Repr

/-- The name of a level at the start of a line. -/
def LogLevel.label : LogLevel → String
  | .debug => "DEBUG"
  | .trace => "TRACE"

/-- One line of a log. -/
structure LogRecord where
  /-- The level of the record. -/
  level : LogLevel
  /-- What happened. -/
  text : String
deriving DecidableEq, Repr

/-- A record as one line, its level first. -/
def LogRecord.line (entry : LogRecord) : String :=
  entry.level.label ++ " " ++ entry.text

end SchemaLens
