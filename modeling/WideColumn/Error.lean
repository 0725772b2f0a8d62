/-! # Errors
What can go wrong between a caller and the database, and how it is worded. -/

namespace WideColumn

/-- An error. -/
inductive Error
  /-- The session could not be opened. The client that met this error is of no further use. -/
  | connect (message : String)
  /-- The session refused to prepare a statement. -/
  | prepare (cql message : String)
  /-- The session failed to execute a prepared statement. -/
  | execution (cql message : String)
  /-- A value was given for a column that the table's schema does not have. -/
  | schemaLookup (table column : String)
  /-- The catalog has no columns for a table. -/
  | schemaUnavailable (table : String)
  /-- A payload uses a tag without a meaning. -/
  | unsupportedMutation (tag : String)
  /-- A condition has an operand that does not fit its operator. -/
  | invalidCondition (message : String)
  /-- A native value has no representation in the type of its column. -/
  | conversion (column message : String)
  /-- A returned value is not of the type that was asked for. -/
  | decode (column message : String)
  /-- There is no row where one was required. -/
  | notFound (message : String)
  /-- Anything else. -/
  | other (message : String)
  deriving DecidableEq

namespace Error

/-- The wording of an error. -/
def message : Error → String
  | connect message => "Connection error: " ++ message
  | prepare cql message => "Prepare error: " ++ message ++ " (cql: " ++ cql ++ ")"
  | execution cql message => "Execution error: " ++ message ++ " (cql: " ++ cql ++ ")"
  | schemaLookup table column =>
    "Column '" ++ column ++ "' not found in schema of table '" ++ table ++ "'"
  | schemaUnavailable table => "No schema available for table '" ++ table ++ "'"
  | unsupportedMutation tag => "Unsupported mutation tag: " ++ tag
  | invalidCondition message => "Invalid condition: " ++ message
  | conversion column message => "Conversion error on column '" ++ column ++ "': " ++ message
  | decode column message => "Decode error on column '" ++ column ++ "': " ++ message
  | notFound message => "Not found: " ++ message
  | other message => message

/-- Whether the client that met this error can no longer be used. -/
def isFatal : Error → Bool
  | connect _ => true
  | _ => false

/-- Whether an error came from preparing or executing a statement. -/
def isSessionError : Error → Bool
  | prepare _ _ | execution _ _ => true
  | _ => false

/-- Whether an error is about a column that the schema does not have. -/
def isSchemaLookup : Error → Bool
  | schemaLookup _ _ => true
  | _ => false

/-- Whether an error is about a missing row. -/
def isNotFound : Error → Bool
  | notFound _ => true
  | _ => false

end Error

end WideColumn
