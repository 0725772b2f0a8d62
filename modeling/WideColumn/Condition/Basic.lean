import WideColumn.Value.Basic

/-! # Conditions
The conditions of a WHERE clause, each on one field. -/

namespace WideColumn

/-- The comparison that a condition makes. -/
inductive Condition
  /-- The field text stands alone, without a value. -/
  | raw
  /-- Equality. -/
  | eq (value : Value)
  /-- Any operator with one value on its right. -/
  | compare (operator : String) (value : Value)
  /-- Membership in a list, or its negation. -/
  | member (negated : Bool) (values : List Value)
  /-- Lying between two values, or its negation. -/
  | between (negated : Bool) (low high : Value)
  deriving DecidableEq

namespace Condition

/-- Equality with a value; null leaves the field text alone. -/
def equal : Value → Condition
  | .null => raw
  | value => eq value

/-- The values of a condition, in the order in which they are written. -/
def values : Condition → List Value
  | raw => []
  | eq value => [value]
  | compare _ value => [value]
  | member _ values => values
  | between _ low high => [low, high]

end Condition

/-- How a condition is joined to the one before it. -/
inductive Connector
  | and
  | or
  deriving DecidableEq

/-- The keyword of a connector. -/
def Connector.keyword : Connector → String
  | and => "AND"
  | or => "OR"

/-- A condition on a field, with the connector in front of it. -/
structure Predicate where
  connector : Connector := .and
  field : String
  condition : Condition
  deriving DecidableEq

end WideColumn
