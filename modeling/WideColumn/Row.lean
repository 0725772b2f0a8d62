import WideColumn.Conversion.Native
import WideColumn.Json.Printer
import WideColumn.Value.Decode
import WideColumn.Value.Json

/-! # Rows
Results of statements, and the rows of native values taken from them. -/

namespace WideColumn

/-- The result of a statement: column names and rows of cells. -/
structure ResultSet where
  columns : List String := []
  rows : List (List Cell) := []
  deriving DecidableEq

namespace ResultSet

/-- The number of rows. -/
def size (r : ResultSet) : Nat := r.rows.length

/-- Whether there are no rows. -/
def isEmpty (r : ResultSet) : Bool := r.rows.isEmpty

/-- Whether the statement returns nothing at all, as a write does. -/
def isVoid (r : ResultSet) : Bool := r.columns.isEmpty && r.rows.isEmpty

end ResultSet

/-- A row of native values under column names. -/
structure Row where
  columns : List String
  values : List Value
  deriving DecidableEq

namespace Row

/-- The named values in column order. -/
def pairs (r : Row) : List (String × Value) := r.columns.zip r.values

/-- The number of values. -/
def size (r : Row) : Nat := r.values.length

/-- Whether there are no values. -/
def isEmpty (r : Row) : Bool := r.values.isEmpty

/-- The value at the place where a column name stands first. -/
def get? (r : Row) (column : String) : Option Value :=
  (r.columns.idxOf? column).bind fun i => r.values[i]?

/-- The value of a column as an element of a type. -/
def decode {α : Type} [OfValue α] (r : Row) (column : String) : Except Error α :=
  match r.get? column with
  | none => .error (.decode column "column not found in row")
  | some value => ofValue column value

/-- The JSON object of a row; of a repeated name the last value counts. -/
def toJson (r : Row) : Json := .ofMembers (r.pairs.map fun p => (p.1, p.2.toJson))

/-- The JSON text of a row in column order, repeated names and all. -/
def toJsonText (r : Row) : String :=
  Json.braced (r.pairs.map fun p => (p.1, p.2.toJson.toText))

end Row

/-- The value that a cell has in a row: its native value, or, where cells are not converted, the
cell itself unless it has a native form already. -/
def Cell.extract (autoConvert : Bool) (cell : Cell) : Value :=
  if autoConvert || cell.isPrimitive then cell.toNative else .typed cell

/-- The rows of a result. -/
def ResultSet.extract (r : ResultSet) (autoConvert : Bool) : List Row :=
  r.rows.map fun cells => ⟨r.columns, cells.map (Cell.extract autoConvert)⟩

end WideColumn
