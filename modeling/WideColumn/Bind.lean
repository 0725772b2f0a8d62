import WideColumn.Conversion.Basic

/-! # Bind parameters
The values of a statement in the order of its placeholders. Every value has a key of its own: the
name of its column, or the name with the least number behind it that makes the key new. -/

namespace WideColumn

/-- What a value is in its statement. -/
inductive BindRole
  /-- It is written into its column, which the schema has to know. -/
  | written
  /-- It is compared with its column or goes into an expression. -/
  | operand
  deriving DecidableEq

/-- A value that takes the place of a placeholder. -/
structure Bind where
  column : String
  value : Value
  role : BindRole
  deriving DecidableEq

/-- A bound value with its key. -/
structure BindParam where
  key : String
  bind : Bind
  deriving DecidableEq

/-- Bound values in the order of their placeholders. -/
structure BindParams where
  params : List BindParam := []
  deriving DecidableEq

namespace BindParams

/-- A column name with a number behind it. Numbers are natural: one that is given out is at most one
more than there are keys, and a statement with so many values that it needs more than 31 bits is out
of reach. -/
def numberedKey (column : String) (number : Nat) : String := column ++ "_" ++ Text.ofNat number

/-- The least number from two on whose key is free. Among one more numbers than taken keys there is
always one. -/
def freeNumber? (taken : List String) (column : String) : Option Nat :=
  ((List.range (taken.length + 1)).map (· + 2)).find? fun n => numberedKey column n ∉ taken

/-- The key of a column next to keys that are taken: the column itself, or its first numbered key
that is free. -/
def freeKey (taken : List String) (column : String) : String :=
  if column ∉ taken then column
  else
    match freeNumber? taken column with
    | some n => numberedKey column n
    | none => column

/-- No values. -/
def empty : BindParams := {}

/-- The keys in order. -/
def keys (ps : BindParams) : List String := ps.params.map BindParam.key

/-- The values in order. -/
def values (ps : BindParams) : List Value := ps.params.map fun p => p.bind.value

/-- The number of values. -/
def size (ps : BindParams) : Nat := ps.params.length

/-- Whether there are no values. -/
def isEmpty (ps : BindParams) : Bool := ps.params.isEmpty

/-- The key that the next value of a column gets. -/
def nextKey (ps : BindParams) (column : String) : String := freeKey ps.keys column

/-- Values with one more at the end. -/
def push (ps : BindParams) (bind : Bind) : BindParams :=
  ⟨ps.params ++ [⟨ps.nextKey bind.column, bind⟩]⟩

/-- The values of a list of binds. -/
def ofBinds (binds : List Bind) : BindParams := binds.foldl push empty

/-- The value of a key. -/
def get? (ps : BindParams) (key : String) : Option Value :=
  (ps.params.find? fun p => p.key == key).map fun p => p.bind.value

@[simp] theorem values_push (ps : BindParams) (bind : Bind) :
    (ps.push bind).values = ps.values ++ [bind.value] := by
  simp [values, push]

end BindParams

namespace Bind

/-- The cell of a value. Written values need a column of the schema and follow the policy for
identifiers. Operands use the schema where it has their column, and then identifiers are always
read, never minted; elsewhere they take the cell that they have by themselves. -/
def toCell (schema : Option Schema) (policy : UuidPolicy) (mint : Mint) (b : Bind) :
    Except Error Cell :=
  match schema, b.role with
  | some schema, .written => Conversion.convert policy mint schema b.column b.value
  | some schema, .operand =>
    if schema.hasColumn b.column then Conversion.convert .honor mint schema b.column b.value
    else .ok b.value.infer
  | none, .written => .error (.schemaLookup "<unknown>" b.column)
  | none, .operand => .ok b.value.infer

/-- The cells of values in order, up to the first error. The supply of identifiers is used by
position. -/
def toCells (schema : Option Schema) (policy : UuidPolicy) (source : UuidSource) :
    List Bind → Except Error (List Cell)
  | [] => .ok []
  | b :: rest => do
    let cell ← b.toCell schema policy (source 0)
    let cells ← toCells schema policy (fun i => source (i + 1)) rest
    return cell :: cells

end Bind

/-- The cells of bound values in order. -/
def BindParams.toCells (ps : BindParams) (schema : Option Schema) (policy : UuidPolicy)
    (source : UuidSource) : Except Error (List Cell) :=
  Bind.toCells schema policy source (ps.params.map BindParam.bind)

end WideColumn
