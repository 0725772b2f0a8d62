import WideColumn.Proofs.Conversion.BoundCells

/-! # Minted identifiers

Where fresh identifiers can go. A client that keeps identifiers as they are given writes none of
them, so that its cells do not depend on how much of the supply has been used. A client that mints
them puts them into columns of identifiers in place of the values written there, and nowhere
else. -/

namespace WideColumn

namespace Conversion

theorem toCell_honor (mint mint' : Mint) (type : ColumnType) (value : Value) :
    toCell .honor mint type value = toCell .honor mint' type value := by
  cases value <;> cases type <;> rfl

theorem convert_honor (mint mint' : Mint) (schema : Schema) (column : String) (value : Value) :
    convert .honor mint schema column value = convert .honor mint' schema column value := by
  unfold convert
  split
  · rfl
  · next type _ =>
    rw [convertTyped, convertTyped, toCell_honor mint mint' type value]

end Conversion

theorem Bind.toCell_honor (schema : Option Schema) (mint mint' : Mint) (b : Bind) :
    b.toCell schema .honor mint = b.toCell schema .honor mint' := by
  cases schema with
  | none => cases hrole : b.role <;> simp [toCell, hrole]
  | some schema =>
    cases hrole : b.role <;>
      simp [toCell, hrole, Conversion.convert_honor mint mint' schema b.column b.value]

theorem Bind.toCells_honor (schema : Option Schema) (binds : List Bind) :
    ∀ source source' : UuidSource,
      toCells schema .honor source binds = toCells schema .honor source' binds := by
  induction binds with
  | nil =>
    intro source source'
    rfl
  | cons b rest ih =>
    intro source source'
    -- The supplies move on by one with every value, so the rest is read from later in both.
    rw [toCells, toCells, b.toCell_honor schema (source 0) (source' 0),
      ih (fun i => source (i + 1)) fun i => source' (i + 1)]

/-- **Honored identifiers are never minted:** the cells of a statement are the same whatever the
supply holds. -/
theorem BindParams.toCells_honor (params : BindParams) (schema : Option Schema)
    (source source' : UuidSource) :
    params.toCells schema .honor source = params.toCells schema .honor source' :=
  Bind.toCells_honor schema _ source source'

/-! ## Where minted identifiers go -/

namespace Conversion

theorem toCell_typed (policy : UuidPolicy) (mint : Mint) (type : ColumnType) (cell : Cell) :
    toCell policy mint type (.typed cell) = .ok cell := by
  cases type <;> rfl

theorem toCell_generate_uuid (mint : Mint) {value : Value} (h : ∀ cell, value ≠ .typed cell) :
    toCell .generate mint .uuid value = .ok (.uuid mint.random) := by
  cases value with
  | typed cell => exact absurd rfl (h cell)
  | _ => rfl

theorem toCell_generate_timeuuid (mint : Mint) {value : Value} (h : ∀ cell, value ≠ .typed cell) :
    toCell .generate mint .timeuuid value = .ok (.timeuuid mint.timeBased) := by
  cases value with
  | typed cell => exact absurd rfl (h cell)
  | _ => rfl

/-- Other columns do not know of the policy. -/
theorem toCell_eq_of_ne (policy policy' : UuidPolicy) (mint mint' : Mint) {type : ColumnType}
    (huuid : type ≠ .uuid) (htimeuuid : type ≠ .timeuuid) (value : Value) :
    toCell policy mint type value = toCell policy' mint' type value := by
  cases type with
  | uuid => exact absurd rfl huuid
  | timeuuid => exact absurd rfl htimeuuid
  | _ => cases value <;> rfl

end Conversion

namespace Bind

/-- Whether a value is written to a column of a type and is no cell already. In a column of
identifiers, it is such a value that a minted one takes the place of. -/
structure WrittenTo (schema : Option Schema) (type : ColumnType) (b : Bind) : Prop where
  role_eq : b.role = .written
  columnType?_eq : schema.bind (·.columnType? b.column) = some type
  native : ∀ cell, b.value ≠ .typed cell

variable {schema : Option Schema} {mint : Mint} {b : Bind}

/-- A written value gets the cell that its column makes of it. -/
theorem WrittenTo.toCell_of_eq {type : ColumnType} (h : b.WrittenTo schema type)
    {policy : UuidPolicy} {cell : Cell} (hcell : Conversion.toCell policy mint type b.value =
      .ok cell) : b.toCell schema policy mint = .ok cell := by
  cases hschema : schema with
  | none => simpa [hschema] using h.columnType?_eq
  | some schema =>
    have hcolumn : schema.columnType? b.column = some type := by
      simpa [hschema] using h.columnType?_eq
    simp only [toCell, h.role_eq, Conversion.convert, hcolumn, Conversion.convertTyped, hcell]
    rfl

/-- Another value in the same place. -/
theorem WrittenTo.with_value {type : ColumnType} (h : b.WrittenTo schema type) {value : Value}
    (hvalue : ∀ cell, value ≠ .typed cell) : ({ b with value } : Bind).WrittenTo schema type :=
  ⟨h.role_eq, h.columnType?_eq, hvalue⟩

/-- **Minting concerns only values written to columns of identifiers.** -/
theorem toCell_generate (huuid : ¬ b.WrittenTo schema .uuid)
    (htimeuuid : ¬ b.WrittenTo schema .timeuuid) (mint mint' : Mint) :
    b.toCell schema .generate mint = b.toCell schema .honor mint' := by
  cases hschema : schema with
  | none => cases hrole : b.role <;> simp [toCell, hrole]
  | some schema =>
    cases hrole : b.role with
    | operand =>
      -- The policy for operands is to keep identifiers, whatever that of the client is.
      rw [← b.toCell_honor (some schema) mint mint']
      simp [toCell, hrole]
    | written =>
      simp only [toCell, hrole, Conversion.convert]
      cases hcolumn : schema.columnType? b.column with
      | none => rfl
      | some type =>
        have htype (hnative : ∀ cell, b.value ≠ .typed cell) : b.WrittenTo (some schema) type :=
          ⟨hrole, hcolumn, hnative⟩
        have hcell : Conversion.toCell .generate mint type b.value =
            Conversion.toCell .honor mint' type b.value := by
          by_cases hnative : ∀ cell, b.value ≠ .typed cell
          · subst hschema
            apply Conversion.toCell_eq_of_ne
            · rintro rfl
              exact huuid (htype hnative)
            · rintro rfl
              exact htimeuuid (htype hnative)
          · obtain ⟨cell, hvalue⟩ := Classical.not_forall_not.mp hnative
            rw [hvalue, Conversion.toCell_typed, Conversion.toCell_typed]
        simp only [Conversion.convertTyped, hcell]

/-- What minting makes of the cell of a value: a minted identifier of the column's own type,
whatever the value is, or nothing else than it was. -/
structure Confines (schema : Option Schema) (mint : Mint) (b : Bind) (kept minted : Cell) :
    Prop where
  uuid : b.WrittenTo schema .uuid →
    minted = .uuid mint.random ∧ mint.random.version = 4 ∧
      ∀ value, (∀ cell, value ≠ .typed cell) →
        ({ b with value } : Bind).toCell schema .generate mint = .ok minted
  timeuuid : b.WrittenTo schema .timeuuid →
    minted = .timeuuid mint.timeBased ∧ mint.timeBased.version = 1 ∧
      ∀ value, (∀ cell, value ≠ .typed cell) →
        ({ b with value } : Bind).toCell schema .generate mint = .ok minted
  other : ¬ b.WrittenTo schema .uuid → ¬ b.WrittenTo schema .timeuuid → minted = kept

/-- A value that has a cell of its own has one with minting, too. -/
theorem exists_confines {mint' : Mint} {kept : Cell} (h : b.toCell schema .honor mint' = .ok kept)
    (mint : Mint) :
    ∃ minted, b.toCell schema .generate mint = .ok minted ∧ b.Confines schema mint kept minted := by
  by_cases huuid : b.WrittenTo schema .uuid
  · have hcell {value : Value} (hvalue : ∀ cell, value ≠ .typed cell) :
        ({ b with value } : Bind).toCell schema .generate mint = .ok (.uuid mint.random) :=
      (huuid.with_value hvalue).toCell_of_eq (Conversion.toCell_generate_uuid mint hvalue)
    refine ⟨.uuid mint.random, hcell huuid.native, ?_, ?_, fun hnot => absurd huuid hnot⟩
    · exact fun _ => ⟨rfl, mint.random_version, fun value hvalue => hcell hvalue⟩
    · intro htimeuuid
      cases huuid.columnType?_eq.symm.trans htimeuuid.columnType?_eq
  by_cases htimeuuid : b.WrittenTo schema .timeuuid
  · have hcell {value : Value} (hvalue : ∀ cell, value ≠ .typed cell) :
        ({ b with value } : Bind).toCell schema .generate mint = .ok (.timeuuid mint.timeBased) :=
      (htimeuuid.with_value hvalue).toCell_of_eq (Conversion.toCell_generate_timeuuid mint hvalue)
    refine ⟨.timeuuid mint.timeBased, hcell htimeuuid.native, fun h => absurd h huuid, ?_, ?_⟩
    · exact fun _ => ⟨rfl, mint.timeBased_version, fun value hvalue => hcell hvalue⟩
    · exact fun _ hnot => absurd htimeuuid hnot
  · refine ⟨kept, ?_, fun h => absurd h huuid, fun h => absurd h htimeuuid, fun _ _ => rfl⟩
    rw [toCell_generate huuid htimeuuid mint mint', h]

/-- What minting makes of the cells of a list of values, each of which has a place of its own in the
supply of identifiers. -/
structure ConfinesAll (schema : Option Schema) (source : UuidSource) (binds : List Bind)
    (kept minted : List Cell) : Prop where
  length_kept : kept.length = binds.length
  length_minted : minted.length = binds.length
  confines : ∀ (i : Nat) (b : Bind) (cell cell' : Cell), binds[i]? = some b →
    kept[i]? = some cell → minted[i]? = some cell' → b.Confines schema (source i) cell cell'

/-- **Values that have cells of their own have cells with minting,** and the two differ only where
an identifier is minted. -/
theorem toCells_generate (binds : List Bind) :
    ∀ {source' : UuidSource} {kept : List Cell}, toCells schema .honor source' binds = .ok kept →
      ∀ source, ∃ minted, toCells schema .generate source binds = .ok minted ∧
        ConfinesAll schema source binds kept minted := by
  induction binds with
  | nil =>
    rintro source' _ ⟨⟩ source
    exact ⟨[], rfl, rfl, rfl, by simp⟩
  | cons b rest ih =>
    intro source' kept h source
    obtain ⟨cell, cells, hcell, hcells, rfl⟩ := exists_of_toCells_cons h
    obtain ⟨cell', hcell', hconfines⟩ := exists_confines hcell (source 0)
    -- The rest of the values reads the supply from one place later.
    obtain ⟨cells', hcells', hrest⟩ := ih hcells fun i => source (i + 1)
    refine ⟨cell' :: cells', ?_, ?_, ?_, ?_⟩
    · rw [toCells, hcell', hcells']
      rfl
    · rw [List.length_cons, List.length_cons, hrest.length_kept]
    · rw [List.length_cons, List.length_cons, hrest.length_minted]
    · intro i
      cases i with
      | zero =>
        rintro _ _ _ ⟨⟩ ⟨⟩ ⟨⟩
        exact hconfines
      | succ i => exact hrest.confines i

end Bind

end WideColumn
