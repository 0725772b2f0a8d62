import WideColumn.Text.Blank

/-! # Column types
The primitive types that a column can have, and their names in the catalog. -/

namespace WideColumn

/-- The type of a column. -/
inductive ColumnType
  /-- Integers of 32 bits. -/
  | int
  /-- Text. -/
  | varchar
  /-- Floating-point numbers of 64 bits. -/
  | double
  /-- Integers of 64 bits. -/
  | bigint
  /-- Decimal numbers. -/
  | decimal
  /-- Floating-point numbers of 32 bits. -/
  | float
  /-- Integers of any size. -/
  | varint
  /-- Bytes. -/
  | blob
  /-- Identifiers. -/
  | uuid
  /-- Identifiers that hold a time. -/
  | timeuuid
  /-- Internet addresses. -/
  | inet
  /-- Points in time. -/
  | timestamp
  deriving DecidableEq

namespace ColumnType

/-- The name of a type. -/
def name : ColumnType → String
  | int => "int"
  | varchar => "varchar"
  | double => "double"
  | bigint => "bigint"
  | decimal => "decimal"
  | float => "float"
  | varint => "varint"
  | blob => "blob"
  | uuid => "uuid"
  | timeuuid => "timeuuid"
  | inet => "inet"
  | timestamp => "timestamp"

/-- The type of a lower-case name. Text has three names, and counters are stored as `bigint`. -/
def ofName? : String → Option ColumnType
  | "int" => some int
  | "varchar" | "text" | "ascii" => some varchar
  | "double" => some double
  | "bigint" | "counter" => some bigint
  | "decimal" => some decimal
  | "float" => some float
  | "varint" => some varint
  | "blob" => some blob
  | "uuid" => some uuid
  | "timeuuid" => some timeuuid
  | "inet" => some inet
  | "timestamp" => some timestamp
  | _ => none

/-- A type name that the catalog reports and no column type has. -/
structure UnsupportedName where
  /-- The name in lower case. -/
  name : String

/-- The wording of an unsupported name. -/
def UnsupportedName.message (u : UnsupportedName) : String :=
  "unsupported column type '" ++ u.name ++ "'"

/-- The type that a catalog entry names, whatever its letter case and the white space around it. -/
def read (text : String) : Except UnsupportedName ColumnType :=
  let name := String.ofList ((Text.trim text.toList).map Char.toLower)
  match ofName? name with
  | some t => .ok t
  | none => .error ⟨name⟩

end ColumnType

end WideColumn
