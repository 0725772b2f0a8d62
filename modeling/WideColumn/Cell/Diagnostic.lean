import WideColumn.Binary.Layout
import WideColumn.Cell.Basic
import WideColumn.Text.Quoted

/-! # Diagnostic text of cells
How a cell that stays typed is shown: its type and, in parentheses, its value. -/

namespace WideColumn.Cell

/-- A name and a value in parentheses. -/
def tagged (name value : String) : String := name ++ "(" ++ value ++ ")"

/-- The diagnostic text of a cell. -/
def toDiagnostic : Cell → String
  | null => "Null"
  | int value => tagged "Int" (Text.ofInt value.toInt)
  | text value => tagged "Text" (String.ofList (Text.quoted value.toList))
  | double value => tagged "Double" (Binary.diagnosticLayout.write value)
  | bigint value => tagged "Bigint" (Text.ofInt value.toInt)
  | decimal value => tagged "Decimal" value.toText
  | float value => tagged "Float" (Binary.diagnosticLayout.write value)
  | varint value => tagged "Varint" (Text.ofInt value)
  | blob value => tagged "Blob" (String.ofList (Text.quotedBytes value))
  | uuid value => tagged "Uuid" value.toText
  | timeuuid value => tagged "Timeuuid" value.toText
  | inet value => tagged "Inet" value.toText
  | timestamp value => tagged "Timestamp" value.toDiagnostic

end WideColumn.Cell
