import WideColumn.Decimal.Floating
import WideColumn.Integer
import WideColumn.Value.Basic

/-! # Cells and native values
The cell that a native value has by itself, and the native value nearest to a cell. -/

namespace WideColumn

/-- The cell of a native value where no column type is known. Integers are `int` cells if they fit
and `bigint` cells otherwise. -/
def Value.infer : Value → Cell
  | null => .null
  | int value =>
    match Integer.toInt32? value.toInt with
    | some small => .int small
    | none => .bigint value
  | double value => .double value
  | text value => .text value
  | bytes value => .blob value
  | timestamp value => .timestamp value
  | typed cell => cell

/-- The native value nearest to a cell. Integers beyond 64 bits, identifiers and addresses become
text. -/
def Cell.toNative : Cell → Value
  | null => .null
  | int value => .int value.toInt64
  | text value => .text value
  | double value => .double value
  | bigint value => .int value
  | decimal value => .double value.toDouble
  | float value => .double value.widen
  | varint value =>
    match Integer.toInt64? value with
    | some small => .int small
    | none => .text (Text.ofInt value)
  | blob value => .bytes value
  | uuid value => .text value.toText
  | timeuuid value => .text value.toText
  | inet value => .text value.toText
  | timestamp value => .timestamp value

/-- No cell has another cell as its native value. -/
theorem Cell.toNative_ne_typed (cell other : Cell) : cell.toNative ≠ .typed other := by
  intro h
  cases cell with
  | varint n =>
    -- An integer of any size is native as a word or as a text.
    rw [toNative] at h
    split at h <;> cases h
  | _ => cases h

end WideColumn
