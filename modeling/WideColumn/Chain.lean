import WideColumn.Condition.Operator

/-! # Condition chains
The conditions collected for the next statement. A condition that cannot be built is remembered and
spoils the chain until it is cleared; the first such fault counts. -/

namespace WideColumn

/-- The conditions waiting for a statement. -/
structure Chain where
  predicates : List Predicate := []
  fault : Option Operator.Fault := none
  deriving DecidableEq

namespace Chain

/-- The chain without conditions. -/
def empty : Chain := {}

/-- A chain with one more condition at its end. -/
def push (chain : Chain) (predicate : Predicate) : Chain :=
  { chain with predicates := chain.predicates ++ [predicate] }

/-- A chain with a condition from an operator, joined by AND, or with the operator's fault. -/
def pushOperator (chain : Chain) (field operator : String) (operand : Operand) : Chain :=
  match Operator.condition operator operand with
  | .ok condition => chain.push { field, condition }
  | .error fault => { chain with fault := chain.fault <|> some fault }

/-- The error of a spoiled chain. -/
def error? (chain : Chain) : Option Error := chain.fault.map Operator.Fault.toError

/-- Whether a chain has neither conditions nor a fault. -/
def isEmpty (chain : Chain) : Bool := chain.predicates.isEmpty && chain.fault.isNone

@[simp] theorem predicates_push (chain : Chain) (predicate : Predicate) :
    (chain.push predicate).predicates = chain.predicates ++ [predicate] := rfl

@[simp] theorem fault_push (chain : Chain) (predicate : Predicate) :
    (chain.push predicate).fault = chain.fault := rfl

end Chain

end WideColumn
