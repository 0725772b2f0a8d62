import WideColumn.Error
import WideColumn.Integer
import WideColumn.Value.Basic

/-! # Decoding native values
Taking a native value as an element of a type of the host language. A value of another kind is an
error that names the column. -/

namespace WideColumn

open Binary (Double)

/-- Types that native values can be taken as. -/
class OfValue (α : Type) where
  /-- The element that a value of a column stands for. -/
  ofValue : (column : String) → Value → Except Error α

export OfValue (ofValue)

namespace Value

/-- The error for a value of the wrong kind. -/
def mismatch (column expected : String) (value : Value) : Error :=
  .decode column ("expected " ++ expected ++ ", got " ++ value.kind)

/-- What was found in a value, or the error for the wrong kind. -/
def expect {α : Type} (column expected : String) (value : Value) (found : Option α) :
    Except Error α :=
  match found with
  | some x => .ok x
  | none => .error (mismatch column expected value)

end Value

instance : OfValue Int64 := ⟨fun column value => value.expect column "int" value.int?⟩

instance : OfValue Int32 :=
  ⟨fun column value => do
    let n : Int64 ← ofValue column value
    match Integer.toInt32? n.toInt with
    | some m => return m
    | none => throw (.decode column (Text.ofInt n.toInt ++ " out of range for i32"))⟩

instance : OfValue Double := ⟨fun column value => value.expect column "double" value.double?⟩

instance : OfValue String := ⟨fun column value => value.expect column "text" value.text?⟩

instance : OfValue (List UInt8) :=
  ⟨fun column value => match value with
    | .bytes bytes => .ok bytes
    | value => .error (value.mismatch column "bytes")⟩

instance : OfValue Instant :=
  ⟨fun column value => match value with
    | .timestamp t => .ok t
    | value => .error (value.mismatch column "timestamp")⟩

instance : OfValue Value := ⟨fun _ value => .ok value⟩

instance {α : Type} [OfValue α] : OfValue (Option α) :=
  ⟨fun column value => if value.isNull then .ok none else (ofValue column value).map some⟩

end WideColumn
