import RecordFilter.Traced

/-!
# The log

Defining a filter leaves records in a log: a warning for a definition with
violations, and messages about every definition that was compiled.
-/

namespace RecordFilter

/-- The parts of the library that write records. -/
inductive LogSource where
  | validation | compiler | memory | sql
  deriving DecidableEq

/-- How urgent a record is. -/
inductive LogLevel where
  | debug | warning
  deriving DecidableEq

/-- The name of a part. -/
def LogSource.text : LogSource → String
  | .validation => "validation"
  | .compiler => "compiler"
  | .memory => "memory"
  | .sql => "sqlalchemy"

/-- The name of a level. -/
def LogLevel.text : LogLevel → String
  | .debug => "DEBUG"
  | .warning => "WARNING"

/-- A record of the log. -/
structure LogRecord where
  source : LogSource
  level : LogLevel
  message : String
  deriving DecidableEq

/-- A result with the records written on the way to it. -/
abbrev Logged := Traced LogRecord

namespace Log

/-- The record of a definition that is refused. -/
def rejected (violations : List Violation) : LogRecord where
  source := .validation
  level := .warning
  message := "Rejected filter definition with " ++ Nat.repr violations.length
    ++ " violation(s): " ++ "; ".intercalate (violations.map Violation.text)

/-- The record of a definition that is compiled. -/
def compiled (backend : String) (names : List String) : LogRecord where
  source := .compiler
  level := .debug
  message :=
    "Compiled " ++ Nat.repr names.length ++ " filter(s) for " ++ backend
    ++ " backend: " ++ listed names

/-- The record of a filter that is defined. -/
def defined (source : LogSource) (kind owner : String) (count : Nat) :
    LogRecord where
  source := source
  level := .debug
  message :=
    "Defined " ++ kind ++ " filter for " ++ owner ++ " with " ++ Nat.repr count
    ++ " filter(s)"

end Log
end RecordFilter
