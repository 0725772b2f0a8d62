import WideColumn.Client.Conversation
import WideColumn.Client.Request
import WideColumn.Text.Truncate

/-! # Execution
How a client carries out a request: it opens the session, sees to the schema, compiles, turns the
values into cells and hands the statement to the database. -/

namespace WideColumn.Client

variable {World Prepared α : Type}

open WideColumn.Action

/-- Opens the session, unless it is open or could not be opened before. The message of a failure is
remembered for all requests to come. -/
def connect (db : Backend World Prepared) : Action World Prepared Unit := do
  match (← client).connection with
  | .ready => return
  | .failed message => throw (.connect message)
  | .idle =>
    match ← call db.connect .connect with
    | .ok () =>
      report .sessionEstablished
      modifyClient fun c => { c with connection := .ready }
    | .error error =>
      let message := match error with
        | .connect message => message
        | error => error.message
      report (.connectFailed message)
      modifyClient fun c => { c with connection := .failed message }
      throw (.connect message)

/-- Counts something. -/
def count (f : Stats → Stats) : Action World Prepared Unit :=
  modifyClient fun c => { c with stats := f c.stats }

/-- Reads the columns of a table from the catalog, unless the table's schema is kept already. A
request has opened the session by then, so that there is no case for a client without one. -/
def loadSchema (db : Backend World Prepared) (table : String) : Action World Prepared Unit := do
  if (← client).schemas.needsRefresh table then
    let columns ← liftExcept (← call (db.columns table) (.columns table))
    count .countRefresh
    if columns.isEmpty then throw (.schemaUnavailable table)
    report (.schemaRefreshed table columns.length)
    modifyClient fun c => { c with schemas := c.schemas.replace (.ofColumns table columns) }

/-- The cells for the values of a statement on a table. -/
def bindCells (table : String) (params : BindParams) : Action World Prepared (List Cell) := do
  let c ← client
  let supply : UuidSource := fun i => c.uuids (c.minted + i)
  let cells ← liftExcept (params.toCells (c.schemas.get? table) c.config.uuidWrites supply)
  modifyClient fun c => { c with minted := c.minted + params.size }
  return cells

/-- The error for a statement that could not be prepared. -/
def prepareError (cql : String) : Error → Error
  | .prepare cql message => .prepare cql message
  | error => .prepare cql error.message

/-- The error for a statement that failed to execute. -/
def executionError (cql : String) : Error → Error
  | .execution cql message => .execution cql message
  | error => .execution cql error.message

/-- The prepared statement of a text: the one that is kept, or a new one. -/
def prepare (db : Backend World Prepared) (cql : String) : Action World Prepared Prepared := do
  match (← client).statements.bind (·.get? cql) with
  | some statement =>
    modifyClient fun c => { c with statements := c.statements.map (·.touch cql) }
    count .countHit
    return statement
  | none =>
    count .countPrepare
    match ← call (db.prepare cql) (.prepare cql) with
    | .error error =>
      count .countFailure
      report (.prepareFailed (prepareError cql error))
      throw (prepareError cql error)
    | .ok statement =>
      if (← client).statements.isSome then
        count .countMiss
        modifyClient fun c => { c with statements := c.statements.map (·.insert cql statement) }
      return statement

/-- Runs a statement. One written by hand has no operation. The session is open here, too. -/
def runStatement (db : Backend World Prepared) (operation : Option Operation) (cql : String)
    (cells : List Cell) : Action World Prepared ResultSet := do
  report (.statementRun operation cells.length (Text.truncate (← client).config.logLimit cql))
  count (.countStatement operation)
  let statement ← prepare db cql
  match ← call (db.execute statement cells) (.execute cql statement cells) with
  | .ok result => return result
  | .error error =>
    count .countFailure
    report (.executionFailed (executionError cql error))
    throw (executionError cql error)

end WideColumn.Client
