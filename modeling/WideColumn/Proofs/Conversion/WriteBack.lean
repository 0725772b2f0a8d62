import WideColumn.Conversion.Basic
import WideColumn.Proofs.Address.Reading
import WideColumn.Proofs.Binary.Widening
import WideColumn.Proofs.Integer.Reading
import WideColumn.Proofs.Uuid.Reading
import WideColumn.Row

/-! # Writing back what has been read

The value that a row has for a cell, written to a column of the cell's type, is the cell again. What
is read of a cell and what is made of a value are two tables that do not know of each other; the
lemmas go through the pairs of a cell and its own type. -/

namespace WideColumn

open Binary (Single)

/-- Whether the native value of a cell tells the cell. That of a decimal is rounded, and an
identifier goes back into a column of time-based ones only if it is one. -/
def Cell.Recoverable : Cell → Prop
  | .decimal _ => False
  | .timeuuid u => u.version = 1
  | _ => True

/-- Whether columns of a type are written what they are given: those of identifiers are not if
identifiers are generated. -/
def UuidPolicy.Takes (policy : UuidPolicy) (type : ColumnType) : Prop :=
  policy = .honor ∨ type ≠ .uuid ∧ type ≠ .timeuuid

namespace Conversion

/-- A text without white space is not trimmed. -/
theorem trimmed_ofList {cs : List Char} (h : ∀ c ∈ cs, Text.isBlank c = false) :
    trimmed (String.ofList cs) = cs := by
  rw [trimmed, String.toList_ofList, Text.trim_eq_self h]

/-! ## One column type at a time -/

/-- An integer of 32 bits passes the check of its range. -/
theorem toInt_toInt64 (n : Int32) : toInt (.int n.toInt64) = .ok (.int n) := by
  simp only [toInt, Int32.toInt_toInt64, Integer.toInt32?_toInt]

/-- An integer of any size goes through 64 bits or through its numeral. -/
theorem toVarint_toNative (n : Int) : toVarint (Cell.varint n).toNative = .ok (.varint n) := by
  rw [Cell.toNative]
  split
  · next small hsmall =>
    rw [toVarint, Integer.toInt64?_eq_some.mp hsmall]
  · rw [toVarint, Text.ofInt, trimmed_ofList fun c => Integer.isBlank_of_mem_signedNumeral,
      Integer.readInt_signedNumeral]
    rfl

/-- The widened form of a number of 32 bits is finite only if the number is. -/
theorem narrow_widen (x : Single) : narrow x.widen = .ok (.float x) := by
  have hrange : ¬(x.widen.isFinite = true ∧ x.widen.narrow.isInfinite = true) := by
    rintro ⟨hfinite, hinfinite⟩
    rw [Binary.Number.isFinite_widen] at hfinite
    rw [Binary.Number.narrow_widen, Binary.Number.not_isInfinite_of_isFinite hfinite] at hinfinite
    cases hinfinite
  rw [narrow, if_neg hrange, Binary.Number.narrow_widen]

/-- The text of an identifier stands for the identifier. -/
theorem toUuid_toText (type : ColumnType) (keep : Uuid → Except Fault Cell) (u : Uuid) :
    toUuid type keep (.text u.toText) = keep u := by
  rw [toUuid, Uuid.toText, trimmed_ofList fun c => Uuid.isBlank_of_mem_hyphenated,
    Uuid.read_hyphenated]

/-- The text of an address stands for the address. -/
theorem toInet_toText (a : Address) : toInet (.text a.toText) = .ok (.inet a) := by
  have hread : Address.read? (trimmed a.toText) = some a := by
    rw [Address.toText, trimmed_ofList fun c => Address.isBlank_of_mem_toChars,
      Address.read?_toChars]
  -- The equations of `toInet` would open the reader of addresses.
  delta toInet
  simp only [hread]

/-! ## All columns -/

/-- Null is written as it is. -/
theorem toCell_null (mint : Mint) {policy : UuidPolicy} {type : ColumnType}
    (h : policy.Takes type) : toCell policy mint type .null = .ok .null := by
  rcases h with rfl | ⟨huuid, htimeuuid⟩
  · cases type <;> rfl
  · cases type with
    | uuid => exact absurd rfl huuid
    | timeuuid => exact absurd rfl htimeuuid
    | _ => rfl

/-- A recoverable cell is made of its native value again. -/
theorem toCell_toNative (mint : Mint) {type : ColumnType} {cell : Cell}
    (htype : cell = .null ∨ cell.columnType? = some type) (h : cell.Recoverable) :
    toCell .honor mint type cell.toNative = .ok cell := by
  rcases htype with rfl | htype
  · exact toCell_null mint (Or.inl rfl)
  cases cell with
  | null => cases htype
  | decimal d => exact h.elim
  | int n =>
    cases htype
    exact toInt_toInt64 n
  | varint n =>
    cases htype
    have hvarint := toVarint_toNative n
    -- A value is tried as a typed one first, and the native value is an integer or text.
    rw [Cell.toNative] at hvarint ⊢
    split at hvarint <;> exact hvarint
  | float x =>
    cases htype
    exact narrow_widen x
  | uuid u =>
    cases htype
    exact toUuid_toText .uuid keepUuid u
  | timeuuid u =>
    cases htype
    have hkeep : keepTimeuuid u = .ok (.timeuuid u) := if_pos h
    rw [← hkeep]
    exact toUuid_toText .timeuuid keepTimeuuid u
  | inet a =>
    cases htype
    exact toInet_toText a
  | text s | double x | bigint n | blob b | timestamp t =>
    cases htype
    rfl

/-- A cell is made again of the value that a row has for it. -/
theorem toCell_extract (mint : Mint) {type : ColumnType} {cell : Cell} {autoConvert : Bool}
    (htype : cell = .null ∨ cell.columnType? = some type)
    (h : autoConvert = true → cell.Recoverable) :
    toCell .honor mint type (cell.extract autoConvert) = .ok cell := by
  rw [Cell.extract]
  cases autoConvert with
  | true => exact toCell_toNative mint htype (h rfl)
  | false =>
    simp only [Bool.false_or]
    split
    · next hprimitive =>
      refine toCell_toNative mint htype ?_
      cases cell with
      | decimal d | timeuuid u => cases hprimitive
      | _ => trivial
    · cases type <;> rfl

theorem convertTyped_of_ok {policy : UuidPolicy} {mint : Mint} {type : ColumnType} {value : Value}
    {cell : Cell} (h : toCell policy mint type value = .ok cell) (column : String) :
    convertTyped policy mint column type value = .ok cell := by
  rw [convertTyped, h]
  rfl

end Conversion

namespace ResultSet

/-- A row of a result has a value for each cell. -/
theorem extract_get {r : ResultSet} {i : Nat} {cells : List Cell} (h : r.rows[i]? = some cells)
    (autoConvert : Bool) :
    (r.extract autoConvert)[i]? = some ⟨r.columns, cells.map (Cell.extract autoConvert)⟩ := by
  rw [extract, List.getElem?_map, h]
  rfl

/-- **Writing back changes nothing:** whatever place of a result a cell is read from, the value in
the row goes into a column of the cell's type as the cell it came from. Cells that have been turned
into native values have to be recoverable. -/
theorem convertTyped_extract {r : ResultSet} {i j : Nat} {cells : List Cell} {cell : Cell}
    (hrow : r.rows[i]? = some cells) (hcell : cells[j]? = some cell) {type : ColumnType}
    (htype : cell = .null ∨ cell.columnType? = some type) {autoConvert : Bool}
    (h : autoConvert = true → cell.Recoverable) :
    ∃ row value, (r.extract autoConvert)[i]? = some row ∧ row.values[j]? = some value ∧
      ∀ (mint : Mint) (column : String),
        Conversion.convertTyped .honor mint column type value = .ok cell := by
  refine ⟨_, cell.extract autoConvert, extract_get hrow autoConvert, ?_, fun mint column => ?_⟩
  · rw [List.getElem?_map, hcell]
    rfl
  · exact Conversion.convertTyped_of_ok (Conversion.toCell_extract mint htype h) column

/-- An integer beyond 64 bits that was read with its row converted. -/
theorem convertTyped_extract_varint :
    let r : ResultSet := ⟨["n"], [[.varint 10000000000000000000]]⟩
    Cell.Recoverable (.varint 10000000000000000000) ∧
      ∃ row value, (r.extract true)[0]? = some row ∧ row.values[0]? = some value ∧
        ∀ (mint : Mint) (column : String),
          Conversion.convertTyped .honor mint column .varint value =
            .ok (.varint 10000000000000000000) :=
  ⟨trivial, convertTyped_extract rfl rfl (Or.inr rfl) fun _ => trivial⟩

end ResultSet

end WideColumn
