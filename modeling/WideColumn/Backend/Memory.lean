import WideColumn.Backend.Basic

/-! # Databases in memory
A database that knows the columns of its tables, accepts every statement and answers with results
queued beforehand. Each of its calls can be made to fail. -/

namespace WideColumn

/-- A failure for statements that contain a text. -/
structure StatementFailure where
  needle : String
  error : Error

/-- Whether a text contains another one. -/
def containsText (needle : List Char) : List Char → Bool
  | [] => needle.isEmpty
  | c :: rest => needle.isPrefixOf (c :: rest) || containsText needle rest

/-- The error that a statement meets. -/
def StatementFailure.errorFor? (f : StatementFailure) (cql : String) : Option Error :=
  if containsText f.needle.toList cql.toList then some f.error else none

/-- The state of a database in memory. -/
structure Memory where
  /-- The columns of the tables; of a repeated table the first entry counts. -/
  tables : List (String × List Column) := []
  /-- The results to answer with, the next one first. -/
  responses : List ResultSet := []
  /-- How often a session has been asked for. -/
  connects : Nat := 0
  connectFailure : Option Error := none
  columnsFailure : Option Error := none
  prepareFailure : Option StatementFailure := none
  executeFailure : Option StatementFailure := none

namespace Memory

/-- An answer, unless there is an error in its place. -/
def answer {α : Type} (failure : Option Error) (value : α) : Except Error α :=
  match failure with
  | some error => .error error
  | none => .ok value

/-- A database with the columns of a table. -/
def setTable (m : Memory) (table : String) (columns : List Column) : Memory :=
  { m with tables := (table, columns) :: m.tables }

/-- A database with one more result to answer with. -/
def respond (m : Memory) (result : ResultSet) : Memory :=
  { m with responses := m.responses ++ [result] }

/-- A database all of whose calls succeed. -/
def clearFailures (m : Memory) : Memory :=
  { m with
    connectFailure := none, columnsFailure := none, prepareFailure := none, executeFailure := none }

/-- Opens the session. -/
def connect (m : Memory) : Except Error Unit × Memory :=
  (answer m.connectFailure (), { m with connects := m.connects + 1 })

/-- The columns of a table, none for an unknown one. -/
def columns (table : String) (m : Memory) : Except Error (List Column) × Memory :=
  (answer m.columnsFailure ((m.tables.lookup table).getD []), m)

/-- A statement prepared is its text. -/
def prepare (cql : String) (m : Memory) : Except Error String × Memory :=
  (answer (m.prepareFailure.bind (·.errorFor? cql)) cql, m)

/-- Answers with the next result, which is empty when none is queued. -/
def execute (cql : String) (_ : List Cell) (m : Memory) : Except Error ResultSet × Memory :=
  match m.executeFailure.bind (·.errorFor? cql) with
  | some error => (.error error, m)
  | none => (.ok (m.responses.headD {}), { m with responses := m.responses.tail })

/-- The database that databases in memory are. -/
def backend : Backend Memory String := ⟨connect, columns, prepare, execute⟩

end Memory

end WideColumn
