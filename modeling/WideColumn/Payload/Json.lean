import WideColumn.Error
import WideColumn.Integer
import WideColumn.Json.Basic
import WideColumn.Payload.Basic

/-! # Payloads from JSON
An object names the columns. A plain value is bound; an object with one member whose name begins
with a dollar sign asks for one of the other ways of writing: `$inc`, `$dec`, `$raw` or `$not`. -/

namespace WideColumn.Payload

/-- Why a member of a JSON payload is refused. -/
inductive Fault
  /-- The amount of a tag is no 64-bit integer. -/
  | notInteger (tag : String)
  /-- An array behind `$raw` does not begin with its text. -/
  | rawWithoutText
  /-- What stands behind `$raw` is neither text nor array. -/
  | rawShape
  /-- A value has parts of its own. -/
  | nested
  /-- A tag has no meaning. -/
  | unknownTag (tag : String)

/-- The error of a fault in a column. -/
def Fault.toError (column : String) : Fault → Error
  | notInteger tag => .conversion column (tag ++ " expects an integer")
  | rawWithoutText => .conversion column "$raw array must start with a string"
  | rawShape => .conversion column "$raw expects a string or array"
  | nested => .conversion column "nested JSON values are not supported"
  | unknownTag tag => .unsupportedMutation tag

/-- The native value of a JSON value without parts. Truth values become 1 and 0, and integers beyond
64 bits become floating-point numbers. Every number is one or the other, so none is out of range. -/
def scalar : Json → Except Fault Value
  | .null => .ok .null
  | .bool value => .ok (.int (if value then 1 else 0))
  | .integer n =>
    match Integer.toInt64? n with
    | some word => .ok (.int word)
    | none => .ok (.double (.ofInt Binary.double n))
  | .real x => .ok (.double x)
  | .string s => .ok (.text s)
  | .array _ | .object _ => .error .nested

/-- The native values of JSON values without parts. -/
def scalars : List Json → Except Fault (List Value)
  | [] => .ok []
  | item :: rest => do
    let value ← scalar item
    let values ← scalars rest
    return value :: values

/-- The amount behind a tag. -/
def amount (tag : String) : Json → Except Fault Int64
  | .integer n =>
    match Integer.toInt64? n with
    | some word => .ok word
    | none => .error (.notInteger tag)
  | _ => .error (.notInteger tag)

/-- The assignment behind `$raw`. -/
def rawAssignment : Json → Except Fault Assignment
  | .string literal => .ok (.raw literal)
  | .array (.string literal :: items) => (scalars items).map (.rawWith literal)
  | .array _ => .error .rawWithoutText
  | _ => .error .rawShape

/-- The assignment of a tag and its argument. -/
def taggedAssignment (tag : String) (argument : Json) : Except Fault Assignment :=
  if tag = "$inc" then (amount tag argument).map .add
  else if tag = "$dec" then (amount tag argument).map .subtract
  else if tag = "$raw" then rawAssignment argument
  else if tag = "$not" then (scalar argument).map .ifMissing
  else .error (.unknownTag tag)

/-- Whether a name asks for another way of writing. -/
def isTag (name : String) : Bool := name.toList.head? == some '$'

/-- The assignment that a member of a payload stands for. -/
def jsonAssignment : Json → Except Fault Assignment
  | .object [(tag, argument)] =>
    if isTag tag then taggedAssignment tag argument else .error .nested
  | json => (scalar json).map .value

/-- A payload with the columns of further members. The first member that is refused is the error. -/
def addMembers (p : Payload) : List (String × Json) → Except Error Payload
  | [] => .ok p
  | (column, json) :: rest =>
    match jsonAssignment json with
    | .error fault => .error (fault.toError column)
    | .ok assignment => addMembers (p.set column assignment) rest

/-- The payload of a JSON object, column by column in the order of the object. -/
def ofJson : Json → Except Error Payload
  | .object members => addMembers empty members
  | _ => .error (.other "mutation payload must be a JSON object")

end WideColumn.Payload
