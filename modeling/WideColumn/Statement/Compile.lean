import WideColumn.Statement.Text

/-! # Compiled statements
The text of a statement together with the values for its placeholders. -/

namespace WideColumn

/-- The values that an assignment binds. -/
def Assignment.binds (column : String) : Assignment → List Bind
  | value v => [⟨column, v, .written⟩]
  | rawWith _ params => params.map fun value => ⟨column, value, .operand⟩
  | increment _ | raw _ | coalesce _ => []

/-- The values that a payload binds. -/
def Payload.binds (p : Payload) : List Bind := p.entries.flatMap fun entry => entry.2.binds entry.1

/-- The values that a predicate binds. -/
def Predicate.binds (p : Predicate) : List Bind :=
  p.condition.values.map fun value => ⟨p.field, value, .operand⟩

/-- The values that a statement binds, in the order of their placeholders. -/
def Statement.binds (s : Statement) : List Bind :=
  (match s.payload with | some p => p.binds | none => []) ++ s.predicates.flatMap Predicate.binds

/-- A statement as text with values. -/
structure Query where
  operation : Operation
  table : String
  cql : String
  params : BindParams
  deriving DecidableEq

/-- Compiles a statement. -/
def Statement.compile (s : Statement) : Query :=
  { operation := s.operation, table := s.table, cql := s.text, params := .ofBinds s.binds }

end WideColumn
