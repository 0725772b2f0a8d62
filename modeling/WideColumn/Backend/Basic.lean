import WideColumn.Row
import WideColumn.Schema

/-! # Backends
The database on the other side of a client. It answers calls one after the other and may change with
each of them. -/

namespace WideColumn

/-- A database with states of type `World` whose prepared statements are of type `Prepared`. -/
structure Backend (World Prepared : Type) where
  /-- Opens the session. -/
  connect : World → Except Error Unit × World
  /-- The columns of a table, as the catalog has them; none if there is no such table. -/
  columns : (table : String) → World → Except Error (List Column) × World
  /-- Prepares a statement with a question mark for every value. -/
  prepare : (cql : String) → World → Except Error Prepared × World
  /-- Runs a prepared statement with the cells for its question marks. -/
  execute : Prepared → List Cell → World → Except Error ResultSet × World

/-- A call that a client made, and its outcome. -/
inductive Call (Prepared : Type)
  | connect (outcome : Except Error Unit)
  | columns (table : String) (outcome : Except Error (List Column))
  | prepare (cql : String) (outcome : Except Error Prepared)
  /-- The statement goes with the text that it was prepared from. -/
  | execute (cql : String) (statement : Prepared) (cells : List Cell)
      (outcome : Except Error ResultSet)

namespace Call

variable {Prepared : Type}

/-- The text that a call prepared, if it succeeded in that. -/
def prepared? : Call Prepared → Option String
  | prepare cql (.ok _) => some cql
  | _ => none

/-- The text and the cells that a call executed, if it succeeded in that. -/
def executed? : Call Prepared → Option (String × List Cell)
  | execute cql _ cells (.ok _) => some (cql, cells)
  | _ => none

end Call

end WideColumn
