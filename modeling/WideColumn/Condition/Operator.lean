import WideColumn.Condition.Basic
import WideColumn.Error
import WideColumn.Text.Blank

/-! # Operators
Conditions from an operator in words and its operand. Operators are told apart by their words alone,
whatever their letter case and the white space between them. -/

namespace WideColumn

/-- The right-hand side of an operator. -/
inductive Operand
  | one (value : Value)
  | list (values : List Value)
  deriving DecidableEq

/-- The values of an operand. -/
def Operand.values : Operand → List Value
  | one value => [value]
  | list values => values

namespace Operator

/-- The normal form of an operator: its words in upper case, one space between them. -/
def normalize (operator : String) : String :=
  String.ofList ([' '].intercalate ((Text.words operator.toList).map (·.map Char.toUpper)))

/-- An operator without the white space around it. -/
def trimmed (operator : String) : String := String.ofList (Text.trim operator.toList)

/-- Why an operator and an operand make no condition. -/
inductive Fault
  /-- A range needs two values. -/
  | twoValues (operator : String) (found : Nat)
  /-- The operator takes a list. -/
  | needsList (operator : String)
  /-- The operator takes one value. -/
  | needsOne (operator : String)
  /-- There is no operator. -/
  | empty
  deriving DecidableEq

/-- The wording of a fault. -/
def Fault.message : Fault → String
  | twoValues operator found =>
    operator ++ " expects exactly 2 values, got " ++ toString found
  | needsList operator => operator ++ " expects a list of values"
  | needsOne operator => "operator '" ++ operator ++ "' expects a single value"
  | empty => "empty operator"

/-- The error that a fault is for the caller. -/
def Fault.toError (f : Fault) : Error := .invalidCondition f.message

/-- The operators that take a list. -/
inductive ListOperator
  | member (negated : Bool)
  | between (negated : Bool)

/-- The list operator of a normal form. -/
def listOperator? : String → Option ListOperator
  | "IN" => some (.member false)
  | "NOT IN" => some (.member true)
  | "BETWEEN" => some (.between false)
  | "NOT BETWEEN" => some (.between true)
  | _ => none

/-- The condition of an operator and an operand. -/
def condition (operator : String) (operand : Operand) : Except Fault Condition :=
  let name := normalize operator
  match listOperator? name, operand with
  | some (.member negated), .list values => .ok (.member negated values)
  | some (.between negated), .list [low, high] => .ok (.between negated low high)
  | some (.between _), .list values => .error (.twoValues name values.length)
  | some _, .one _ => .error (.needsList name)
  | none, operand =>
    if name = "" then .error .empty
    else
      match operand with
      | .one value =>
        if name = "=" then .ok (.eq value) else .ok (.compare (trimmed operator) value)
      | .list _ => .error (.needsOne (trimmed operator))

end Operator

end WideColumn
