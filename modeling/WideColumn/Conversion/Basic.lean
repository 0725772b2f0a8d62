import WideColumn.Address.Reader
import WideColumn.Binary.Layout
import WideColumn.Binary.Reader
import WideColumn.Calendar.Reader
import WideColumn.Conversion.Native
import WideColumn.Decimal.Reader
import WideColumn.Error
import WideColumn.Schema
import WideColumn.Uuid.Reader

/-! # Conversion to column types
Turning native values into cells of a column's type. A typed value passes as it is. Primitive
columns take what a value is by itself, with a range check for integers; the others accept the kinds
of values that have a representation in them and refuse the rest. -/

namespace WideColumn

open Binary (Double)

/-- What happens to values written to columns of identifiers. -/
inductive UuidPolicy
  /-- The value is ignored and a fresh identifier written. -/
  | generate
  /-- The value is read and checked. -/
  | honor
  deriving DecidableEq

namespace Conversion

/-- Why a value has no representation in a column. -/
inductive Fault
  /-- A number exceeds the type. -/
  | outOfRange (number : String) (type : ColumnType)
  /-- A text does not denote a value of the type. -/
  | malformed (type : ColumnType) (text reason : String)
  /-- A number has no decimal. -/
  | notDecimal (number : Double)
  /-- A byte string is no identifier. -/
  | malformedBytes (reason : String)
  /-- An identifier does not hold a time. -/
  | notTimeBased (uuid : Uuid)
  /-- A number of milliseconds is outside of the calendar. -/
  | millisOutOfRange (millis : Int64)
  /-- A text is no timestamp. -/
  | malformedTimestamp (text : String)
  /-- A kind of values does not go into the type. -/
  | unsupported (kind : String) (type : ColumnType)

/-- The wording of a fault. -/
def Fault.message : Fault → String
  | outOfRange number type => number ++ " is out of range for " ++ type.name
  | malformed type text reason => "invalid " ++ type.name ++ " '" ++ text ++ "': " ++ reason
  | notDecimal number =>
    "invalid decimal " ++ Binary.plainLayout.write number ++ ": Error while converting to Decimal"
  | malformedBytes reason => "invalid uuid bytes: " ++ reason
  | notTimeBased uuid => uuid.toText ++ " is not a time-based (v1) uuid"
  | millisOutOfRange millis => "timestamp " ++ Text.ofInt millis.toInt ++ " out of range"
  | malformedTimestamp text => "invalid timestamp '" ++ text ++ "'"
  | unsupported kind type => "cannot convert " ++ kind ++ " to " ++ type.name

/-- A text without the white space around it. -/
def trimmed (s : String) : List Char := Text.trim s.toList

/-- What a reader made of a text, or the fault of the text. -/
def accept {α ε : Type} (type : ColumnType) (text : String) (message : ε → String)
    (toCell : α → Cell) : Except ε α → Except Fault Cell
  | .ok x => .ok (toCell x)
  | .error e => .error (.malformed type text (message e))

/-- A value as a cell of an `int` column. -/
def toInt : Value → Except Fault Cell
  | .int n =>
    match Integer.toInt32? n.toInt with
    | some small => .ok (.int small)
    | none => .error (.outOfRange (Text.ofInt n.toInt) .int)
  | value => .ok value.infer

/-- A value as a cell of a `bigint` column. -/
def toBigint : Value → Except Fault Cell
  | .null => .ok .null
  | .int n => .ok (.bigint n)
  | .text s => accept .bigint s Integer.ReadFault.message .bigint (Integer.readInt64 (trimmed s))
  | value => .error (.unsupported value.kind .bigint)

/-- A value as a cell of a `varint` column. -/
def toVarint : Value → Except Fault Cell
  | .null => .ok .null
  | .int n => .ok (.varint n.toInt)
  | .text s => accept .varint s Integer.ReadFault.message .varint (Integer.readInt (trimmed s))
  | value => .error (.unsupported value.kind .varint)

/-- A value as a cell of a `decimal` column. -/
def toDecimal : Value → Except Fault Cell
  | .null => .ok .null
  | .int n => .ok (.decimal (.ofInt64 n))
  | .double x =>
    match Decimal.ofDouble? x with
    | some d => .ok (.decimal d)
    | none => .error (.notDecimal x)
  | .text s => accept .decimal s Decimal.ReadFault.message .decimal (Decimal.read (trimmed s))
  | value => .error (.unsupported value.kind .decimal)

/-- A double-precision number as a cell of a `float` column. A finite number must stay finite. -/
def narrow (x : Double) : Except Fault Cell :=
  if x.isFinite ∧ x.narrow.isInfinite then
    .error (.outOfRange (Binary.plainLayout.write x) .float)
  else .ok (.float x.narrow)

/-- A value as a cell of a `float` column. -/
def toFloat : Value → Except Fault Cell
  | .null => .ok .null
  | .double x => narrow x
  | .int n => .ok (.float (.ofInt Binary.single n.toInt))
  | .text s =>
    match Binary.readDouble (trimmed s) with
    | .ok x => narrow x
    | .error e => .error (.malformed .float s e.message)
  | value => .error (.unsupported value.kind .float)

/-- A value as a cell of a `blob` column. -/
def toBlob : Value → Except Fault Cell
  | .null => .ok .null
  | .bytes b => .ok (.blob b)
  | .text s => .ok (.blob (s.toList.flatMap String.utf8EncodeChar))
  | value => .error (.unsupported value.kind .blob)

/-- A value as a cell of an `inet` column. -/
def toInet : Value → Except Fault Cell
  | .null => .ok .null
  | .text s =>
    match Address.read? (trimmed s) with
    | some a => .ok (.inet a)
    | none => .error (.malformed .inet s Address.readFault)
  | value => .error (.unsupported value.kind .inet)

/-- A value as a cell of a `timestamp` column. -/
def toTimestamp : Value → Except Fault Cell
  | .null => .ok .null
  | .timestamp t => .ok (.timestamp t)
  | .int n =>
    match Instant.ofMillis? n.toInt with
    | some t => .ok (.timestamp t)
    | none => .error (.millisOutOfRange n)
  | .text s =>
    match Instant.read? (trimmed s) with
    | some t => .ok (.timestamp t)
    | none => .error (.malformedTimestamp (String.ofList (trimmed s)))
  | value => .error (.unsupported value.kind .timestamp)

/-- An identifier as a cell of a `uuid` column. -/
def keepUuid (u : Uuid) : Except Fault Cell := .ok (.uuid u)

/-- An identifier as a cell of a `timeuuid` column, which takes version 1 only. -/
def keepTimeuuid (u : Uuid) : Except Fault Cell :=
  if u.version = 1 then .ok (.timeuuid u) else .error (.notTimeBased u)

/-- A value as an identifier, which `keep` makes a cell of a column of type `type`. -/
def toUuid (type : ColumnType) (keep : Uuid → Except Fault Cell) : Value → Except Fault Cell
  | .null => .ok .null
  | .text s =>
    match Uuid.read (trimmed s) with
    | .ok u => keep u
    | .error e => .error (.malformed .uuid s e.message)
  | .bytes b =>
    match Uuid.readBytes b with
    | .ok u => keep u
    | .error e => .error (.malformedBytes e.message)
  | value => .error (.unsupported value.kind type)

/-- A value as a cell of a column's type. Under the policy `generate`, columns of identifiers get
what has been minted, whatever the value is. -/
def toCell (policy : UuidPolicy) (mint : Mint) (type : ColumnType) (value : Value) :
    Except Fault Cell :=
  match value, type with
  | .typed cell, _ => .ok cell
  | value, .int => toInt value
  | value, .varchar | value, .double => .ok value.infer
  | value, .uuid =>
    match policy with
    | .generate => .ok (.uuid mint.random)
    | .honor => toUuid .uuid keepUuid value
  | value, .timeuuid =>
    match policy with
    | .generate => .ok (.timeuuid mint.timeBased)
    | .honor => toUuid .timeuuid keepTimeuuid value
  | value, .bigint => toBigint value
  | value, .varint => toVarint value
  | value, .decimal => toDecimal value
  | value, .float => toFloat value
  | value, .blob => toBlob value
  | value, .inet => toInet value
  | value, .timestamp => toTimestamp value

@[simp] theorem toCell_bigint_text (policy : UuidPolicy) (mint : Mint) (s : String) :
    toCell policy mint .bigint (.text s) = toBigint (.text s) := rfl

@[simp] theorem toCell_varint_text (policy : UuidPolicy) (mint : Mint) (s : String) :
    toCell policy mint .varint (.text s) = toVarint (.text s) := rfl

@[simp] theorem toCell_timestamp_int (policy : UuidPolicy) (mint : Mint) (n : Int64) :
    toCell policy mint .timestamp (.int n) = toTimestamp (.int n) := rfl

/-- A value as a cell of a column of a known type; a fault becomes an error that names the column.
-/
def convertTyped (policy : UuidPolicy) (mint : Mint) (column : String) (type : ColumnType)
    (value : Value) : Except Error Cell :=
  (toCell policy mint type value).mapError fun fault => .conversion column fault.message

/-- A value as a cell of a column of a table. The schema has to have the column. -/
def convert (policy : UuidPolicy) (mint : Mint) (schema : Schema) (column : String)
    (value : Value) : Except Error Cell :=
  match schema.columnType? column with
  | none => .error (.schemaLookup schema.table column)
  | some type => convertTyped policy mint column type value

end Conversion

end WideColumn
