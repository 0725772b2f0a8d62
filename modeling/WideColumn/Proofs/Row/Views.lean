import Mathlib.Data.List.Forall2
import WideColumn.Proofs.Json.Members
import WideColumn.Row

/-! # Views of a row

A row has a list of names and a list of values, which need not be of one length, and a name may be
there twice. A look-up by name takes the place where a name stands first, the pairs stop where the
shorter list stops, and in the JSON object the last value of a name counts: where the names are
distinct, all of them tell the same. Of a result a row has a value for each cell; what is left typed
in it is just what could still be turned into a native value. -/

namespace WideColumn

namespace Row

/-! ## One row -/

/-- A look-up in two lists is one in their pairs. -/
theorem lookup_zip {α : Type} (columns : List String) (values : List α) (column : String) :
    (columns.zip values).lookup column =
      (columns.idxOf? column).bind fun i => values[i]? := by
  induction columns generalizing values with
  | nil => rfl
  | cons head rest ih =>
    rw [List.idxOf?_cons]
    cases values with
    | nil => simp
    | cons value values =>
      rw [List.zip_cons_cons, lookup_cons_eq_ite, ih]
      by_cases h : column = head
      · simp [h]
      · rw [if_neg h, beq_false_of_ne (Ne.symm h), if_neg Bool.false_ne_true, Option.bind_map]
        rfl

theorem get?_eq_lookup (row : Row) (column : String) : row.get? column = row.pairs.lookup column :=
  (lookup_zip row.columns row.values column).symm

/-- The names of the pairs are the first ones of the columns. -/
theorem map_fst_pairs (row : Row) :
    row.pairs.map Prod.fst = row.columns.take (min row.columns.length row.values.length) := by
  rw [pairs, List.zip_eq_zip_take_min, List.map_fst_zip]
  rw [List.length_take, List.length_take]
  omega

/-- The JSON of a row has the last value of each name. -/
theorem member?_toJson (row : Row) (column : String) :
    row.toJson.member? column = (row.pairs.reverse.lookup column).map Value.toJson := by
  rw [toJson, Json.member?_ofMembers, ← List.map_reverse, lookup_map]

/-- What the ways to look at a row have to do with each other. -/
structure ViewsAgree (row : Row) : Prop where
  length_pairs : row.pairs.length = min row.columns.length row.values.length
  /-- Each pair is a name and the value that has the same place. -/
  pairs_get : ∀ (i : Nat) (column : String) (value : Value),
    row.pairs[i]? = some (column, value) ↔
      row.columns[i]? = some column ∧ row.values[i]? = some value
  get_iff : ∀ column value, row.get? column = some value ↔ FirstNamed row.pairs column value
  absent_iff : ∀ column, row.get? column = none ↔ column ∉ row.pairs.map Prod.fst
  decode_absent : ∀ {α : Type} [OfValue α] (column : String), row.get? column = none →
    (row.decode column : Except Error α) = .error (.decode column "column not found in row")
  /-- The object has the names of the pairs, each once and with its last value. -/
  json : ∃ members, row.toJson = .object members ∧ Json.Ordered members ∧
    (∀ column, column ∈ members.map Prod.fst ↔ column ∈ row.pairs.map Prod.fst) ∧
    ∀ column json, (column, json) ∈ members ↔
      ∃ value, LastNamed row.pairs column value ∧ value.toJson = json
  distinct : row.columns.Nodup →
    ∀ column, row.toJson.member? column = (row.get? column).map Value.toJson

theorem viewsAgree (row : Row) : row.ViewsAgree where
  length_pairs := List.length_zip
  pairs_get _ _ _ := List.getElem?_zip_eq_some
  get_iff column value := by rw [get?_eq_lookup, lookup_eq_some_iff_firstNamed]
  absent_iff column := by rw [get?_eq_lookup, lookup_eq_none_iff_not_mem]
  decode_absent column habsent := by rw [decode, habsent]
  json := by
    obtain ⟨members, hobject, hordered, hmem⟩ :=
      Json.exists_ofMembers_eq (row.pairs.map fun p => (p.1, p.2.toJson))
    have hlast : ∀ column json, (column, json) ∈ members ↔
        ∃ value, LastNamed row.pairs column value ∧ value.toJson = json := fun column json =>
      (hmem column json).trans lastNamed_map
    refine ⟨members, hobject, hordered, fun column => ?_, hlast⟩
    refine Iff.trans ?_ exists_lastNamed_iff
    rw [List.mem_map]
    constructor
    · rintro ⟨⟨_, json⟩, hmember, rfl⟩
      obtain ⟨value, hvalue, -⟩ := (hlast _ _).mp hmember
      exact ⟨value, hvalue⟩
    · rintro ⟨value, hvalue⟩
      exact ⟨(column, value.toJson), (hlast _ _).mpr ⟨value, hvalue, rfl⟩, rfl⟩
  distinct hdistinct column := by
    have hnames : (row.pairs.map Prod.fst).Nodup := by
      rw [map_fst_pairs]
      exact hdistinct.take
    rw [member?_toJson, lookup_reverse hnames, get?_eq_lookup]

end Row

/-! ## All rows of a result -/

/-- A value as a native one: a typed cell becomes the native value nearest to it. -/
def Value.untyped : Value → Value
  | typed cell => cell.toNative
  | value => value

theorem Value.untyped_of_ne_typed {value : Value} (h : ∀ cell, value ≠ .typed cell) :
    value.untyped = value := by
  cases value with
  | typed cell => exact absurd rfl (h cell)
  | _ => rfl

/-- A row with its typed cells turned into native values. -/
def Row.untyped (row : Row) : Row := { row with values := row.values.map Value.untyped }

namespace Cell

/-- Which value a cell is read as: its native value where cells are converted or it has a native
form already, and the cell itself everywhere else. -/
inductive Reading (autoConvert : Bool) (cell : Cell) : Value → Prop
  | native (h : autoConvert = true ∨ cell.isPrimitive = true) :
    Reading autoConvert cell cell.toNative
  | kept (hauto : autoConvert = false) (h : cell.isPrimitive = false) :
    Reading autoConvert cell (.typed cell)

theorem reading_extract (autoConvert : Bool) (cell : Cell) :
    cell.Reading autoConvert (cell.extract autoConvert) := by
  rw [extract]
  split
  · next h => exact .native (Bool.or_eq_true_iff.mp h)
  · next h =>
    obtain ⟨hauto, hprimitive⟩ := Bool.or_eq_false_iff.mp (eq_false_of_ne_true h)
    exact .kept hauto hprimitive

/-- What is read as a typed cell is that cell, which has no native form. -/
theorem Reading.of_typed {autoConvert : Bool} {cell other : Cell}
    (h : cell.Reading autoConvert (.typed other)) :
    autoConvert = false ∧ other.isPrimitive = false := by
  generalize hvalue : Value.typed other = value at h
  cases h with
  | native _ => exact absurd hvalue.symm (cell.toNative_ne_typed other)
  | kept hauto hprimitive =>
    cases hvalue
    exact ⟨hauto, hprimitive⟩

theorem isNull_of_not_isPrimitive {cell : Cell} (h : cell.isPrimitive = false) :
    cell.isNull = false := by
  cases cell with
  | null => cases h
  | _ => rfl

/-- A cell that was kept is converted afterwards as it would have been at once. -/
theorem untyped_extract (cell : Cell) : (cell.extract false).untyped = cell.extract true := by
  have hnative : cell.extract true = cell.toNative := rfl
  rw [hnative, extract]
  split
  · exact Value.untyped_of_ne_typed cell.toNative_ne_typed
  · rfl

end Cell

namespace ResultSet

/-- Whether rows are those of a result. -/
structure Extracted (r : ResultSet) (autoConvert : Bool) (rows : List Row) : Prop where
  /-- There is a row for each row and in it a value for each cell, all in their order. -/
  cells : List.Forall₂
    (fun cells row => List.Forall₂ (Cell.Reading autoConvert) cells row.values) r.rows rows
  columns : ∀ row ∈ rows, row.columns = r.columns
  /-- What is left typed could be native, and was not to be. -/
  typed : ∀ row ∈ rows, ∀ cell : Cell, .typed cell ∈ row.values →
    autoConvert = false ∧ cell.isPrimitive = false ∧ cell.isNull = false

theorem extracted (r : ResultSet) (autoConvert : Bool) :
    r.Extracted autoConvert (r.extract autoConvert) := by
  constructor
  case cells =>
    rw [extract, List.forall₂_map_right_iff, List.forall₂_same]
    intro cells _
    rw [List.forall₂_map_right_iff, List.forall₂_same]
    exact fun cell _ => cell.reading_extract autoConvert
  case columns =>
    intro row hrow
    obtain ⟨cells, -, rfl⟩ := List.mem_map.mp hrow
    rfl
  case typed =>
    intro row hrow cell hcell
    obtain ⟨cells, -, rfl⟩ := List.mem_map.mp hrow
    obtain ⟨source, -, hsource⟩ := List.mem_map.mp hcell
    have hreading := source.reading_extract autoConvert
    rw [hsource] at hreading
    obtain ⟨hauto, hprimitive⟩ := hreading.of_typed
    exact ⟨hauto, hprimitive, Cell.isNull_of_not_isPrimitive hprimitive⟩

/-- Rows that were not converted are converted afterwards as they would have been at once. -/
theorem map_untyped_extract (r : ResultSet) :
    (r.extract false).map Row.untyped = r.extract true := by
  rw [extract, extract, List.map_map]
  refine List.map_congr_left fun cells _ => ?_
  show Row.mk r.columns ((cells.map (Cell.extract false)).map Value.untyped) = _
  rw [List.map_map]
  exact congrArg (Row.mk r.columns) (List.map_congr_left fun cell _ => cell.untyped_extract)

end ResultSet

/-- **All views of a row tell the same,** whatever its names and values, and the rows of a result
are the same whether their cells are converted at once or afterwards. -/
theorem Row.views_agree :
    (∀ row : Row, row.ViewsAgree) ∧
      ∀ r : ResultSet, (∀ autoConvert, r.Extracted autoConvert (r.extract autoConvert)) ∧
        (r.extract false).map Row.untyped = r.extract true :=
  ⟨viewsAgree, fun r => ⟨r.extracted, r.map_untyped_extract⟩⟩

/-- A row that has a value for one of its two columns. -/
theorem Row.views_agree_short :
    let row : Row := ⟨["id", "big"], [.int 7]⟩
    row.columns.Nodup ∧ row.toJson.member? "id" = some (.integer 7) ∧
      row.get? "big" = none ∧ row.toJson.member? "big" = none := by
  intro row
  have hdistinct : row.columns.Nodup := by decide
  have hjson := (views_agree.1 row).distinct hdistinct
  exact ⟨hdistinct, hjson "id", rfl, hjson "big"⟩

end WideColumn
