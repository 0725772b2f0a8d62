import WideColumn.ColumnType

/-! # Table schemas
The column types of a table, and the schema that is kept of the table used last. -/

namespace WideColumn

/-- A named column and its type. -/
abbrev Column := String × ColumnType

/-- The columns of a table, each name once. -/
structure Schema where
  table : String
  columns : List Column
  deriving DecidableEq

namespace Schema

/-- Columns with one more; a name that is there already takes the new type. -/
def insertColumn (name : String) (type : ColumnType) : List Column → List Column
  | [] => [(name, type)]
  | (other, kept) :: rest =>
    if other = name then (name, type) :: rest else (other, kept) :: insertColumn name type rest

@[simp] theorem insertColumn_nil (name : String) (type : ColumnType) :
    insertColumn name type [] = [(name, type)] := rfl

/-- A column that is put in is found; the others are what they were. -/
theorem lookup_insertColumn (name column : String) (type : ColumnType) (columns : List Column) :
    (insertColumn name type columns).lookup column =
      if column = name then some type else columns.lookup column := by
  induction columns with
  | nil =>
    by_cases h : column = name
    · simp [h]
    · rw [if_neg h, insertColumn_nil, List.lookup_cons, beq_false_of_ne h]
  | cons head rest ih =>
    by_cases hn : head.1 = name
    · by_cases h : column = name
      · simp [insertColumn, hn, h]
      · have hne : (column == head.1) = false := beq_false_of_ne (hn ▸ h)
        rw [if_neg h, insertColumn, if_pos hn, List.lookup_cons, beq_false_of_ne h,
          List.lookup_cons, hne]
    · rw [insertColumn, if_neg hn, List.lookup_cons, List.lookup_cons, ih]
      by_cases hc : column = head.1
      · have hcn : column ≠ name := hc ▸ hn
        simp [hc, hn]
      · rw [beq_false_of_ne hc]

/-- The schema of a table without columns. -/
def empty (table : String) : Schema := ⟨table, []⟩

/-- A schema with one more column. -/
def withColumn (s : Schema) (name : String) (type : ColumnType) : Schema :=
  { s with columns := insertColumn name type s.columns }

/-- The schema of columns in any order; of a repeated name the last type counts. -/
def ofColumns (table : String) (columns : List Column) : Schema :=
  columns.foldl (fun s c => s.withColumn c.1 c.2) (empty table)

/-- The type of a column. -/
def columnType? (s : Schema) (column : String) : Option ColumnType := s.columns.lookup column

theorem columnType?_withColumn (s : Schema) (name column : String) (type : ColumnType) :
    (s.withColumn name type).columnType? column =
      if column = name then some type else s.columnType? column :=
  lookup_insertColumn name column type s.columns

/-- Whether a column is known. -/
def hasColumn (s : Schema) (column : String) : Bool := (s.columnType? column).isSome

/-- The number of columns. -/
def size (s : Schema) : Nat := s.columns.length

/-- Whether there are no columns. -/
def isEmpty (s : Schema) : Bool := s.columns.isEmpty

end Schema

/-- The schema of the table used last, if one has been loaded. -/
structure SchemaCache where
  current : Option Schema := none
  deriving DecidableEq

namespace SchemaCache

/-- The schema that is kept, if it is that of a table. -/
def get? (c : SchemaCache) (table : String) : Option Schema :=
  c.current.filter fun s => s.table == table

/-- Whether the schema of a table has to be loaded. -/
def needsRefresh (c : SchemaCache) (table : String) : Bool := (c.get? table).isNone

/-- Keeps a schema in place of the one before. -/
def replace (_ : SchemaCache) (s : Schema) : SchemaCache := ⟨some s⟩

/-- Keeps no schema. -/
def clear (_ : SchemaCache) : SchemaCache := ⟨none⟩

end SchemaCache

end WideColumn
