import WideColumn.Address.Basic
import WideColumn.Binary.Number
import WideColumn.Calendar.Instant
import WideColumn.ColumnType
import WideColumn.Decimal.Basic
import WideColumn.Uuid.Basic

/-! # Cells
The typed values that the database stores, binds and returns. -/

namespace WideColumn

open Binary (Double Single)

/-- A typed cell. -/
inductive Cell
  /-- A cell without a value, which belongs to every column. -/
  | null
  | int (value : Int32)
  | text (value : String)
  | double (value : Double)
  | bigint (value : Int64)
  | decimal (value : Decimal)
  | float (value : Single)
  | varint (value : Int)
  | blob (value : List UInt8)
  | uuid (value : Uuid)
  | timeuuid (value : Uuid)
  | inet (value : Address)
  | timestamp (value : Instant)
  deriving DecidableEq

namespace Cell

/-- The type of the columns that a cell belongs to; a null cell has none of its own. -/
def columnType? : Cell → Option ColumnType
  | null => none
  | int _ => some .int
  | text _ => some .varchar
  | double _ => some .double
  | bigint _ => some .bigint
  | decimal _ => some .decimal
  | float _ => some .float
  | varint _ => some .varint
  | blob _ => some .blob
  | uuid _ => some .uuid
  | timeuuid _ => some .timeuuid
  | inet _ => some .inet
  | timestamp _ => some .timestamp

/-- Whether a cell has the form of a native value already. -/
def isPrimitive : Cell → Bool
  | null | int _ | text _ | double _ => true
  | _ => false

/-- Whether a cell has no value. -/
def isNull : Cell → Bool
  | null => true
  | _ => false

end Cell

end WideColumn
