/-
Log messages. What a run reports about its progress is part of its
result: a list of entries in the order they arise.
-/
namespace KbDocs

/-- How much a log entry matters. -/
inductive LogLevel where
  | debug
  | info
  | warning
deriving DecidableEq

/-- The name of a level. -/
def LogLevel.label : LogLevel → String
  | debug => "DEBUG"
  | info => "INFO"
  | warning => "WARNING"

/-- One message of a log. -/
structure LogEntry where
  level : LogLevel
  message : String
deriving DecidableEq

abbrev Log :=
  List LogEntry

/-- The entries that are shown: all of them, or the warnings only. -/
def Log.shown (log : Log) (verbose : Bool) : Log :=
  log.filter fun e => verbose || e.level == .warning

end KbDocs
