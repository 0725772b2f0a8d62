import WideColumn.Bind
import WideColumn.Proofs.Naming

/-! # Cells of bound values

Values get their cells one after another, up to the first one that has none. So there are as many
cells as values or the error is that of one of the values, and a column that is missing is missing
in the schema at hand. -/

namespace WideColumn

/-! ## One value after another -/

namespace Bind

variable {schema : Option Schema} {policy : UuidPolicy} {source : UuidSource} {b : Bind}
  {binds : List Bind} {cells : List Cell}

/-- Cells of all values are a cell of the first one and cells of the others. -/
theorem exists_of_toCells_cons (h : toCells schema policy source (b :: binds) = .ok cells) :
    ∃ cell others, b.toCell schema policy (source 0) = .ok cell ∧
      toCells schema policy (fun i => source (i + 1)) binds = .ok others ∧
      cells = cell :: others := by
  rw [toCells] at h
  cases hcell : b.toCell schema policy (source 0) with
  | error error =>
    rw [hcell] at h
    cases h
  | ok cell =>
    cases hothers : toCells schema policy (fun i => source (i + 1)) binds with
    | error error =>
      rw [hcell, hothers] at h
      cases h
    | ok others =>
      rw [hcell, hothers] at h
      cases h
      exact ⟨cell, others, rfl, rfl, rfl⟩

/-- What fails for a list of values fails for one of them. -/
theorem exists_of_toCells_eq_error {error : Error} : ∀ {source : UuidSource},
    toCells schema policy source binds = .error error →
      ∃ b ∈ binds, ∃ mint, b.toCell schema policy mint = .error error := by
  induction binds with
  | nil => rintro source ⟨⟩
  | cons b rest ih =>
    intro source h
    rw [toCells] at h
    cases hcell : b.toCell schema policy (source 0) with
    | error fault =>
      rw [hcell] at h
      cases h
      exact ⟨b, List.mem_cons_self, source 0, hcell⟩
    | ok cell =>
      cases hrest : toCells schema policy (fun i => source (i + 1)) rest with
      | error fault =>
        rw [hcell, hrest] at h
        cases h
        obtain ⟨other, hmem, hother⟩ := ih hrest
        exact ⟨other, List.mem_cons_of_mem _ hmem, hother⟩
      | ok others =>
        rw [hcell, hrest] at h
        cases h

/-- There are as many cells as values. -/
theorem length_of_toCells : ∀ {source : UuidSource} {cells : List Cell},
    toCells schema policy source binds = .ok cells → cells.length = binds.length := by
  induction binds with
  | nil =>
    rintro source _ ⟨⟩
    rfl
  | cons b rest ih =>
    intro source cells h
    obtain ⟨cell, others, -, hothers, rfl⟩ := exists_of_toCells_cons h
    rw [List.length_cons, List.length_cons, ih hothers]

end Bind

theorem BindParams.length_of_toCells {params : BindParams} {schema : Option Schema}
    {policy : UuidPolicy} {source : UuidSource} {cells : List Cell}
    (h : params.toCells schema policy source = .ok cells) : cells.length = params.size :=
  (Bind.length_of_toCells h).trans (List.length_map _)

/-! ## Columns that a schema does not have -/

/-- A column has the last type that it is given. -/
theorem Schema.columnType?_ofColumns (table column : String) (columns : List Column) :
    (ofColumns table columns).columnType? column = columns.reverse.lookup column :=
  (get_foldl_put columnType?_withColumn columns (empty table) column).trans Option.or_none

/-- A schema has the columns that it is made of. -/
theorem Schema.columnType?_ofColumns_eq_none {table column : String} {columns : List Column}
    (h : (ofColumns table columns).columnType? column = none) :
    column ∉ columns.map Prod.fst := by
  rwa [columnType?_ofColumns, lookup_eq_none_iff_not_mem, List.map_reverse, List.mem_reverse] at h

section MissingColumn

variable {schema : Schema} {policy : UuidPolicy} {name column : String}

/-- A value that has no cell for want of a column is written to a column that its schema does not
have. -/
theorem Conversion.schemaLookup_of_convert {mint : Mint} {column' : String} {value : Value}
    (h : convert policy mint schema column' value = .error (.schemaLookup name column)) :
    name = schema.table ∧ schema.columnType? column = none := by
  rw [convert] at h
  split at h
  · next htype =>
    cases h
    exact ⟨rfl, htype⟩
  · rw [convertTyped] at h
    cases hcell : toCell policy mint _ value with
    | error fault =>
      rw [hcell] at h
      cases h
    | ok cell =>
      rw [hcell] at h
      cases h

theorem Bind.schemaLookup_of_toCell {mint : Mint} {b : Bind}
    (h : b.toCell (some schema) policy mint = .error (.schemaLookup name column)) :
    name = schema.table ∧ schema.columnType? column = none := by
  cases hrole : b.role with
  | written =>
    simp only [toCell, hrole] at h
    exact Conversion.schemaLookup_of_convert h
  | operand =>
    -- An operand without a column takes the cell that it has by itself.
    simp only [toCell, hrole] at h
    split at h
    · exact Conversion.schemaLookup_of_convert h
    · cases h

/-- **With a schema at hand, no other schema is said to miss a column.** -/
theorem BindParams.schemaLookup_of_toCells {params : BindParams} {source : UuidSource}
    (h : params.toCells (some schema) policy source = .error (.schemaLookup name column)) :
    name = schema.table ∧ schema.columnType? column = none := by
  obtain ⟨b, -, mint, hb⟩ := Bind.exists_of_toCells_eq_error h
  exact Bind.schemaLookup_of_toCell hb

end MissingColumn

end WideColumn
