import WideColumn.Bind
import WideColumn.Condition.Basic
import WideColumn.Payload.Basic

/-! # Statements
The parts of a statement before it becomes text. -/

namespace WideColumn

/-- The kind of a statement. -/
inductive Operation
  | select
  | insert
  | update
  | delete
  deriving DecidableEq

/-- The keyword of a kind of statement. -/
def Operation.keyword : Operation → String
  | select => "SELECT"
  | insert => "INSERT"
  | update => "UPDATE"
  | delete => "DELETE"

/-- A bound on the number of rows. -/
inductive Limit
  | count (n : UInt64)
  /-- So many rows after leaving out the first ones. -/
  | window (offset rows : UInt64)
  deriving DecidableEq

/-- A statement. -/
structure Statement where
  operation : Operation
  table : String
  /-- The columns to select; none stands for all. -/
  columns : List String := []
  payload : Option Payload := none
  predicates : List Predicate := []
  limit : Option Limit := none
  deriving DecidableEq

end WideColumn
