import WideColumn.Binary.Number
import WideColumn.Cell.Basic

/-! # Native values
The values that callers hand in and get back, and the types of the host language that turn into
them. -/

namespace WideColumn

open Binary (Double Single)

/-- A native value. -/
inductive Value
  | null
  | int (value : Int64)
  | double (value : Double)
  | text (value : String)
  | bytes (value : List UInt8)
  | timestamp (value : Instant)
  /-- A cell that has not been turned into a native value. -/
  | typed (cell : Cell)
  deriving DecidableEq

namespace Value

/-- Whether a value is null. A typed null is a cell and not null itself. -/
def isNull : Value → Bool
  | null => true
  | _ => false

/-- The integer that a value is. -/
def int? : Value → Option Int64
  | int value => some value
  | _ => none

/-- The floating-point number that a value is or, for an integer, is nearest to it. -/
def double? : Value → Option Double
  | double value => some value
  | int value => some (.ofInt Binary.double value.toInt)
  | _ => none

/-- The text that a value is. -/
def text? : Value → Option String
  | text value => some value
  | _ => none

/-- The word for the kind of a value. -/
def kind : Value → String
  | null => "null"
  | int _ => "int"
  | double _ => "double"
  | text _ => "text"
  | bytes _ => "bytes"
  | timestamp _ => "timestamp"
  | typed _ => "typed"

end Value

/-- Types whose elements turn into native values. -/
class ToValue (α : Type) where
  /-- The native value of an element. -/
  toValue : α → Value

export ToValue (toValue)

instance : ToValue Value := ⟨id⟩

instance : ToValue Int8 := ⟨fun n => .int n.toInt64⟩

instance : ToValue Int16 := ⟨fun n => .int n.toInt64⟩

instance : ToValue Int32 := ⟨fun n => .int n.toInt64⟩

instance : ToValue Int64 := ⟨.int⟩

instance : ToValue UInt8 := ⟨fun n => .int (Int64.ofInt n.toNat)⟩

instance : ToValue UInt16 := ⟨fun n => .int (Int64.ofInt n.toNat)⟩

instance : ToValue UInt32 := ⟨fun n => .int (Int64.ofInt n.toNat)⟩

instance : ToValue Single := ⟨fun x => .double x.widen⟩

instance : ToValue Double := ⟨.double⟩

instance : ToValue String := ⟨.text⟩

instance : ToValue (List UInt8) := ⟨.bytes⟩

instance : ToValue Instant := ⟨.timestamp⟩

instance : ToValue Uuid := ⟨fun u => .text u.toText⟩

instance : ToValue Cell := ⟨.typed⟩

instance {α : Type} [ToValue α] : ToValue (Option α) :=
  ⟨fun x => match x with
    | some x => toValue x
    | none => .null⟩

end WideColumn
