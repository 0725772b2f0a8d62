import WideColumn.Error
import WideColumn.Statement.Basic

/-! # Log
What a client reports while it works, and the records that its reports become. -/

namespace WideColumn

/-- How much attention a record asks for. -/
inductive LogLevel
  | debug
  | info
  | warn
  | error
  deriving DecidableEq

/-- The word for a level. -/
def LogLevel.name : LogLevel → String
  | debug => "DEBUG"
  | info => "INFO"
  | warn => "WARN"
  | error => "ERROR"

/-- What a field of a record holds. -/
inductive LogField
  | text (value : String)
  | count (value : Nat)
  deriving DecidableEq

/-- A record of the log. -/
structure LogRecord where
  level : LogLevel
  /-- The part of the log that the record goes to. -/
  target : String
  message : Option String
  fields : List (String × LogField)
  deriving DecidableEq

/-- Something that a client reports. -/
inductive Notice
  /-- The session has been opened. -/
  | sessionEstablished
  /-- The session could not be opened. -/
  | connectFailed (message : String)
  /-- The columns of a table have been read from the catalog. -/
  | schemaRefreshed (table : String) (columns : Nat)
  /-- A statement is about to be run; one written by hand has no operation. -/
  | statementRun (operation : Option Operation) (paramCount : Nat) (cql : String)
  /-- The session refused a statement. -/
  | prepareFailed (error : Error)
  /-- The session failed on a statement. -/
  | executionFailed (error : Error)
  /-- The conditions of a failed request stay for another try. -/
  | chainKept (error : Error)
  deriving DecidableEq

namespace Notice

/-- The part of the log for all but statements. -/
def mainTarget : String := "cqlkit"

/-- The part of the log for statements. -/
def statementTarget : String := "cqlkit.cql"

/-- The word for what a statement does. -/
def operationName : Option Operation → String
  | some operation => operation.keyword
  | none => "RAW"

/-- A record about an error, under the target for all but statements. -/
def errorRecord (level : LogLevel) (error message : String) : LogRecord :=
  ⟨level, mainTarget, some message, [("error", .text error)]⟩

/-- The record of a report. -/
def record : Notice → LogRecord
  | sessionEstablished => ⟨.info, mainTarget, some "session established", []⟩
  | connectFailed message => errorRecord .error message "connect failed; client disabled"
  | schemaRefreshed table columns =>
    ⟨.info, mainTarget, some "schema cache refreshed",
      [("table", .text table), ("columns", .count columns)]⟩
  | statementRun operation paramCount cql =>
    ⟨.debug, statementTarget, none,
      [("operation", .text (operationName operation)), ("param_count", .count paramCount),
        ("cql", .text cql)]⟩
  | prepareFailed error => errorRecord .warn error.message "prepare failed"
  | executionFailed error => errorRecord .warn error.message "execution failed"
  | chainKept error => errorRecord .debug error.message "builder state kept"

end Notice

end WideColumn
