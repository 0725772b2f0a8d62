import WideColumn.Cell.Diagnostic
import WideColumn.Json.Basic
import WideColumn.Value.Basic

/-! # JSON form of native values
Bytes become a list of numbers, timestamps RFC 3339 text, and typed cells their diagnostic text.
Infinities and not-a-number become null. -/

namespace WideColumn.Value

/-- The JSON value of a native value. -/
def toJson : Value → Json
  | null => .null
  | int value => .integer value.toInt
  | double value => if value.isFinite then .real value else .null
  | text value => .string value
  | bytes value => .array (value.map fun b => .integer b.toNat)
  | timestamp value => .string value.toRfc3339
  | typed cell => .string cell.toDiagnostic

end WideColumn.Value
