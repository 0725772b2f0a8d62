import WideColumn.Proofs.Conversion.WriteBack

/-! # Native values in columns

A value of the host language that is bound to a column, stored, and taken from a row of a later
result is the value it was. The way leads through the value's cell: which one is stored, and what a
row makes of it. -/

namespace WideColumn

open Binary (Double)

/-! ## There and back -/

section

variable {α β : Type} [ToValue α] [OfValue β]

/-- What comes back of an element. Bound to a column of a type it is stored as a cell, and wherever
a result has that cell in the column, the row has the column as `y`. -/
def ComesBack (policy : UuidPolicy) (type : ColumnType) (x : α) (y : β) : Prop :=
  ∀ (mint : Mint) (schema : Schema) (column : String), schema.columnType? column = some type →
    ∃ cell, Conversion.convert policy mint schema column (toValue x) = .ok cell ∧
      ∀ (r : ResultSet) (i j : Nat) (cells : List Cell), r.rows[i]? = some cells →
        r.columns.idxOf? column = some j → cells[j]? = some cell →
          ∃ row, (r.extract true)[i]? = some row ∧ row.decode column = .ok y

/-- Every element comes back from columns of a type, be it optional or not, and its absence is
null. -/
structure Survives (policy : UuidPolicy) (type : ColumnType) (back : α → β) : Prop where
  plain : ∀ x : α, ComesBack policy type x (back x)
  optional : ∀ x : Option α, ComesBack policy type x (x.map back)
  absent : ∀ (mint : Mint) (schema : Schema) (column : String),
    schema.columnType? column = some type →
      Conversion.convert policy mint schema column (toValue (none : Option α)) = .ok .null

theorem Conversion.convert_of_ok {policy : UuidPolicy} {mint : Mint} {schema : Schema}
    {column : String} {type : ColumnType} {value : Value} {cell : Cell}
    (htype : schema.columnType? column = some type)
    (h : toCell policy mint type value = .ok cell) :
    convert policy mint schema column value = .ok cell := by
  rw [convert, htype]
  exact convertTyped_of_ok h column

/-- A column of a row is what its cell stands for. -/
theorem ResultSet.decode_extract {r : ResultSet} {i j : Nat} {cells : List Cell} {cell : Cell}
    {column : String} {y : β} (hrow : r.rows[i]? = some cells)
    (hcolumn : r.columns.idxOf? column = some j) (hcell : cells[j]? = some cell)
    (h : ofValue column cell.toNative = .ok y) :
    ∃ row, (r.extract true)[i]? = some row ∧ row.decode column = .ok y := by
  refine ⟨_, extract_get hrow true, ?_⟩
  have hget : (⟨r.columns, cells.map (Cell.extract true)⟩ : Row).get? column =
      some cell.toNative := by
    rw [Row.get?, hcolumn, Option.bind_some, List.getElem?_map, hcell]
    rfl
  rw [Row.decode, hget]
  exact h

/-- An element comes back if its cell can be stored and stands for it. -/
theorem ComesBack.of_cell {policy : UuidPolicy} {type : ColumnType} {x : α} {y : β} {cell : Cell}
    (hcell : ∀ mint, Conversion.toCell policy mint type (toValue x) = .ok cell)
    (hback : ∀ column, ofValue column cell.toNative = .ok y) : ComesBack policy type x y := by
  intro mint schema column htype
  refine ⟨cell, Conversion.convert_of_ok htype (hcell mint), ?_⟩
  intro r i j cells hrow hcolumn hat
  exact ResultSet.decode_extract hrow hcolumn hat (hback column)

/-- Only the null cell becomes null. -/
theorem Cell.isNull_toNative (cell : Cell) : cell.toNative.isNull = cell.isNull := by
  cases cell with
  | varint n =>
    rw [toNative]
    split <;> rfl
  | _ => rfl

/-- A type survives in columns that store each element as a cell of its own. -/
theorem Survives.of_cells {policy : UuidPolicy} {type : ColumnType} {back : α → β}
    (htakes : policy.Takes type) (cellOf : α → Cell)
    (hcell : ∀ mint x, Conversion.toCell policy mint type (toValue x) = .ok (cellOf x))
    (hback : ∀ column x, ofValue column (cellOf x).toNative = .ok (back x))
    (hnull : ∀ x, (cellOf x).isNull = false) : Survives policy type back where
  plain x := ComesBack.of_cell (fun mint => hcell mint x) fun column => hback column x
  optional x := by
    cases x with
    | none => exact ComesBack.of_cell (fun mint => Conversion.toCell_null mint htakes) fun _ => rfl
    | some x =>
      refine ComesBack.of_cell (fun mint => hcell mint x) fun column => ?_
      show (if (cellOf x).toNative.isNull then _
        else (ofValue column (cellOf x).toNative).map some) = Except.ok (some (back x))
      rw [Cell.isNull_toNative, hnull x, if_neg Bool.false_ne_true, hback column x]
      rfl
  absent mint schema column htype :=
    Conversion.convert_of_ok htype (Conversion.toCell_null mint htakes)

end

/-! ## Integers -/

/-- An integer of 32 bits is found again among those of 64 bits. -/
theorem ofValue_toInt64 (column : String) (n : Int32) :
    ofValue column (.int n.toInt64) = .ok n := by
  have hsmall : Integer.toInt32? n.toInt64.toInt = some n := by
    rw [Int32.toInt_toInt64, Integer.toInt32?_toInt]
  have hword : (ofValue column (.int n.toInt64) : Except Error Int64) = .ok n.toInt64 := rfl
  simp only [ofValue] at hword ⊢
  rw [hword]
  simp only [bind, Except.bind, hsmall]
  rfl

/-- An integer of 64 bits is not turned into text, whatever the width of its column. -/
theorem toNative_varint (n : Int64) : (Cell.varint n.toInt).toNative = .int n := by
  rw [Cell.toNative, Integer.toInt64?_toInt]

theorem survives_int32 (policy : UuidPolicy) {type : ColumnType}
    (h : type = .int ∨ type = .bigint ∨ type = .varint) :
    Survives policy type (id : Int32 → Int32) := by
  rcases h with rfl | rfl | rfl
  · exact Survives.of_cells (Or.inr ⟨nofun, nofun⟩) .int (fun _ => Conversion.toInt_toInt64)
      ofValue_toInt64 fun _ => rfl
  · exact Survives.of_cells (Or.inr ⟨nofun, nofun⟩) (fun n => .bigint n.toInt64) (fun _ _ => rfl)
      ofValue_toInt64 fun _ => rfl
  · refine Survives.of_cells (Or.inr ⟨nofun, nofun⟩) (fun n => .varint n.toInt64.toInt)
      (fun _ _ => rfl) (fun column n => ?_) fun _ => rfl
    rw [toNative_varint]
    exact ofValue_toInt64 column n

theorem survives_int64 (policy : UuidPolicy) {type : ColumnType}
    (h : type = .bigint ∨ type = .varint) : Survives policy type (id : Int64 → Int64) := by
  rcases h with rfl | rfl
  · exact Survives.of_cells (Or.inr ⟨nofun, nofun⟩) .bigint (fun _ _ => rfl) (fun _ _ => rfl)
      fun _ => rfl
  · refine Survives.of_cells (Or.inr ⟨nofun, nofun⟩) (fun n => .varint n.toInt) (fun _ _ => rfl)
      (fun column n => ?_) fun _ => rfl
    rw [toNative_varint]
    rfl

/-- An integer that an `int` column cannot hold is refused. -/
theorem Conversion.convert_int_of_outside {schema : Schema} {column : String}
    (htype : schema.columnType? column = some .int) {n : Int64}
    (h : n.toInt < -2147483648 ∨ 2147483648 ≤ n.toInt) (policy : UuidPolicy) (mint : Mint) :
    convert policy mint schema column (toValue n) =
      .error (.conversion column (Fault.outOfRange (Text.ofInt n.toInt) .int).message) := by
  have hnone : Integer.toInt32? n.toInt = none := if_neg (by omega)
  have hfault : toInt (.int n) = .error (.outOfRange (Text.ofInt n.toInt) .int) := by
    rw [toInt, hnone]
  rw [convert, htype]
  show (toInt (.int n)).mapError _ = _
  rw [hfault]
  rfl

/-! ## The other types -/

theorem survives_text (policy : UuidPolicy) : Survives policy .varchar (id : String → String) :=
  .of_cells (Or.inr ⟨nofun, nofun⟩) .text (fun _ _ => rfl) (fun _ _ => rfl) fun _ => rfl

theorem survives_double (policy : UuidPolicy) : Survives policy .double (id : Double → Double) :=
  .of_cells (Or.inr ⟨nofun, nofun⟩) .double (fun _ _ => rfl) (fun _ _ => rfl) fun _ => rfl

theorem survives_bytes (policy : UuidPolicy) :
    Survives policy .blob (id : List UInt8 → List UInt8) :=
  .of_cells (Or.inr ⟨nofun, nofun⟩) .blob (fun _ _ => rfl) (fun _ _ => rfl) fun _ => rfl

theorem survives_instant (policy : UuidPolicy) :
    Survives policy .timestamp (id : Instant → Instant) :=
  .of_cells (Or.inr ⟨nofun, nofun⟩) .timestamp (fun _ _ => rfl) (fun _ _ => rfl) fun _ => rfl

/-- Identifiers come back as text, from columns of identifiers that take what they are given. -/
theorem survives_uuid : Survives .honor .uuid Uuid.toText :=
  .of_cells (Or.inl rfl) .uuid (fun _ => Conversion.toUuid_toText .uuid Conversion.keepUuid)
    (fun _ _ => rfl) fun _ => rfl

/-- **Native values survive a write and a read,** in every column that is made for them, and an
integer that is too wide for its column is refused and not cut off. -/
theorem native_survives (policy : UuidPolicy) :
    (∀ type, type = .int ∨ type = .bigint ∨ type = .varint →
      Survives policy type (id : Int32 → Int32)) ∧
    (∀ type, type = .bigint ∨ type = .varint → Survives policy type (id : Int64 → Int64)) ∧
    Survives policy .varchar (id : String → String) ∧
    Survives policy .double (id : Double → Double) ∧
    Survives policy .blob (id : List UInt8 → List UInt8) ∧
    Survives policy .timestamp (id : Instant → Instant) ∧
    Survives .honor .uuid Uuid.toText ∧
    ∀ (mint : Mint) (schema : Schema) (column : String) (n : Int64),
      schema.columnType? column = some .int → n.toInt < -2147483648 ∨ 2147483648 ≤ n.toInt →
        ∃ message, Conversion.convert policy mint schema column (toValue n) =
          .error (.conversion column message) :=
  ⟨fun _ => survives_int32 policy, fun _ => survives_int64 policy, survives_text policy,
    survives_double policy, survives_bytes policy, survives_instant policy, survives_uuid,
    fun mint _ _ _ htype h => ⟨_, Conversion.convert_int_of_outside htype h policy mint⟩⟩

/-- A negative number in a column of integers of any size, and a wide one in an `int` column. -/
theorem native_survives_count :
    let schema := (Schema.empty "visits").withColumn "count" .varint |>.withColumn "id" .int
    ComesBack .generate .varint (-5 : Int32) (-5 : Int32) ∧
    ComesBack .generate .varint (none : Option Int64) (none : Option Int64) ∧
    schema.columnType? "count" = some .varint ∧
    ∀ mint, ∃ message, Conversion.convert .generate mint schema "id"
      (toValue (4294967296 : Int64)) = .error (.conversion "id" message) := by
  obtain ⟨hint32, hint64, -, -, -, -, -, hwide⟩ := native_survives .generate
  refine ⟨(hint32 .varint (by decide)).plain (-5), (hint64 .varint (by decide)).optional none, rfl,
    fun mint => hwide mint _ "id" 4294967296 rfl (by decide)⟩

end WideColumn
