import WideColumn.Binary.Layout
import WideColumn.Conversion.Native
import WideColumn.Text.Hex

/-! # Payloads
What an INSERT or UPDATE writes: an ordered list of columns, each once, with the way it is written.
-/

namespace WideColumn

/-- The way a column is written. -/
inductive Assignment
  /-- A value that is bound. -/
  | value (value : Value)
  /-- A text behind the column's name, such as ` + 1`. -/
  | increment (fragment : String)
  /-- A text as it is. -/
  | raw (literal : String)
  /-- A text as it is, with values for the question marks in it. -/
  | rawWith (literal : String) (params : List Value)
  /-- A value to write only where there is none yet; without it the column stands for itself. -/
  | coalesce (literal : Option String)
  deriving DecidableEq

/-- A native value as a literal inside a statement; null has none. -/
def Value.literalOfNative : Value → Option String
  | null => none
  | int value => some (Text.ofInt value.toInt)
  | double value => some (Binary.plainLayout.write value)
  | text value => some value
  | bytes value => some (String.ofList ('0' :: 'x' :: Text.hex value))
  | timestamp value => some (Text.ofInt value.toMillis)
  | typed _ => none

/-- A value as a literal inside a statement. A typed cell is written as its native value. -/
def Value.literal? : Value → Option String
  | typed cell => cell.toNative.literalOfNative
  | value => value.literalOfNative

namespace Assignment

/-- Adds to a column: a negative amount is written as a subtraction. -/
def add (amount : Int64) : Assignment :=
  increment ((if amount.toInt < 0 then " - " else " + ") ++ Text.ofNat amount.toInt.natAbs)

/-- Subtracts from a column: a negative amount is written as an addition. -/
def subtract (amount : Int64) : Assignment :=
  increment ((if amount.toInt < 0 then " + " else " - ") ++ Text.ofNat amount.toInt.natAbs)

/-- Writes a value where a column has none. -/
def ifMissing (value : Value) : Assignment := coalesce value.literal?

end Assignment

/-- An ordered list of columns and assignments. -/
structure Payload where
  entries : List (String × Assignment) := []
  deriving DecidableEq

namespace Payload

/-- Entries with one more at the end; a column that is there already is changed in its place. -/
def setEntry (column : String) (assignment : Assignment) :
    List (String × Assignment) → List (String × Assignment)
  | [] => [(column, assignment)]
  | (other, kept) :: rest =>
    if other = column then (other, assignment) :: rest
    else (other, kept) :: setEntry column assignment rest

@[simp] theorem setEntry_nil (column : String) (assignment : Assignment) :
    setEntry column assignment [] = [(column, assignment)] := rfl

/-- A column keeps its place, or comes last where it is new. -/
theorem map_fst_setEntry (column : String) (assignment : Assignment)
    (entries : List (String × Assignment)) :
    (setEntry column assignment entries).map Prod.fst =
      if column ∈ entries.map Prod.fst then entries.map Prod.fst
      else entries.map Prod.fst ++ [column] := by
  induction entries with
  | nil => simp
  | cons head rest ih =>
    by_cases h : head.1 = column
    · simp [setEntry, h]
    · have h' : column ≠ head.1 := fun e => h e.symm
      by_cases hr : column ∈ rest.map Prod.fst <;> simp_all [setEntry]

/-- The payload without columns. -/
def empty : Payload := {}

/-- A payload in which a column is written in a given way. -/
def set (p : Payload) (column : String) (assignment : Assignment) : Payload :=
  ⟨setEntry column assignment p.entries⟩

/-- The columns in order. -/
def columns (p : Payload) : List String := p.entries.map Prod.fst

theorem columns_set (p : Payload) (column : String) (assignment : Assignment) :
    (p.set column assignment).columns =
      if column ∈ p.columns then p.columns else p.columns ++ [column] :=
  map_fst_setEntry column assignment p.entries

/-- The number of columns. -/
def size (p : Payload) : Nat := p.entries.length

/-- Whether no column is written. -/
def isEmpty (p : Payload) : Bool := p.entries.isEmpty

end Payload

end WideColumn
