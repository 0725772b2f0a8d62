import WideColumn.Client.Execution

/-! # Operations
What callers can have a client do: read, write, change and remove rows under the collected
conditions, or run a statement written by hand. -/

namespace WideColumn

/-- What a statement written by hand gives. -/
inductive RawOutcome
  | rows (rows : List Row)
  /-- The statement has no columns to return. -/
  | applied
  deriving DecidableEq

/-- Types whose elements are read from rows. -/
class OfRow (α : Type) where
  /-- The element that a row stands for. -/
  ofRow : Row → Except Error α

instance : OfRow Row := ⟨.ok⟩

namespace Client

variable {World Prepared α : Type}

open WideColumn.Action

/-- Carries out a request. A read needs the schema only for the values of its conditions, so it is
compiled first; the others load the schema whatever they are. -/
def execute (db : Backend World Prepared) (request : Request) :
    Action World Prepared ResultSet := do
  connect db
  let query ←
    if request.operation = .select then do
      let query ← liftExcept ((← client).compile request)
      unless query.params.isEmpty do loadSchema db request.table
      pure query
    else do
      loadSchema db request.table
      liftExcept ((← client).compile request)
  let cells ← bindCells request.table query.params
  runStatement db (some request.operation) query.cql cells

/-- Hands on what an action came to. The conditions have done their work then, unless the database
let them down: after an error of its making they stay for another try. -/
def settle (action : Action World Prepared α) : Action World Prepared α := do
  match ← outcome action with
  | .ok result =>
    modifyClient reset
    return result
  | .error error =>
    if error.isFatal || error.isSessionError then report (.chainKept error)
    else modifyClient reset
    throw error

/-- Carries out a request and settles the conditions. -/
def perform (db : Backend World Prepared) (request : Request) : Action World Prepared ResultSet :=
  settle (execute db request)

/-- The rows of a result, converted as the client is set up to. -/
def rowsOf (result : ResultSet) : Action World Prepared (List Row) :=
  return result.extract (← client).config.autoConvert

/-- The rows of a table that meet the conditions. -/
def get (db : Backend World Prepared) (table : String) (limit : Option Limit)
    (columns : List String) : Action World Prepared (List Row) := do
  rowsOf (← perform db (.select table limit columns))

/-- The first row of a table that meets the conditions. -/
def getOne (db : Backend World Prepared) (table : String) (columns : List String) :
    Action World Prepared (Option Row) :=
  return (← get db table (some (.count 1)) columns).head?

/-- The first row of a table that meets the conditions, of which there has to be one. -/
def getOneStrict (db : Backend World Prepared) (table : String) (columns : List String) :
    Action World Prepared Row := do
  match ← getOne db table columns with
  | some row => return row
  | none => throw (.notFound ("no row in " ++ table))

/-- The rows of a table that meet the conditions, read as elements of a type. -/
def getAs [OfRow α] (db : Backend World Prepared) (table : String) (limit : Option Limit)
    (columns : List String) : Action World Prepared (List α) := do
  liftExcept ((← get db table limit columns).mapM OfRow.ofRow)

/-- Writes a row. -/
def insert (db : Backend World Prepared) (table : String) (payload : Payload) :
    Action World Prepared Unit :=
  discard (perform db (.insert table payload))

/-- Changes the rows that meet the conditions. -/
def update (db : Backend World Prepared) (table : String) (payload : Payload) :
    Action World Prepared Unit :=
  discard (perform db (.update table payload))

/-- Removes the rows that meet the conditions. -/
def delete (db : Backend World Prepared) (table : String) (limit : Option Limit) :
    Action World Prepared Unit :=
  discard (perform db (.delete table limit))

/-- Runs a statement written by hand. The conditions are left alone. -/
def rawQuery (db : Backend World Prepared) (cql : String) : Action World Prepared RawOutcome := do
  connect db
  let result ← runStatement db none cql []
  if result.isVoid then return .applied else return .rows (← rowsOf result)

end Client

end WideColumn
