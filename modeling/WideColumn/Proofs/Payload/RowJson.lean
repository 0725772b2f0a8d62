import Mathlib.Data.List.Perm.Basic
import WideColumn.Payload.Json
import WideColumn.Proofs.Conversion.Timestamps
import WideColumn.Proofs.Json.Members
import WideColumn.Proofs.Payload.Grammar
import WideColumn.Statement.Compile

/-! # Rows through JSON

The JSON object of a row is a payload of plain values, and an INSERT of that payload writes the
cells that the row was read from. Per cell, its value goes into JSON and comes out again, all but a
timestamp unchanged; per row, the members are put in the order of their names. -/

namespace WideColumn

/-! ## One cell -/

/-- Whether the JSON form of a cell's native value tells the cell. Bytes become a list, numbers that
are not finite null, and years beyond four digits are not read. -/
def Cell.JsonRecoverable : Cell → Prop
  | .decimal _ | .blob _ => False
  | .double x => x.isFinite
  | .float x => x.isFinite
  | .timeuuid u => u.version = 1
  | .timestamp t => 0 ≤ t.date.year ∧ t.date.year ≤ 9999
  | _ => True

instance : DecidablePred Cell.JsonRecoverable
  | .decimal _ | .blob _ => inferInstanceAs (Decidable False)
  | .double x => inferInstanceAs (Decidable (x.isFinite = true))
  | .float x => inferInstanceAs (Decidable (x.isFinite = true))
  | .timeuuid u => inferInstanceAs (Decidable (u.version = 1))
  | .timestamp t => inferInstanceAs (Decidable (0 ≤ t.date.year ∧ t.date.year ≤ 9999))
  | .null | .int _ | .text _ | .bigint _ | .varint _ | .uuid _ | .inet _ =>
    inferInstanceAs (Decidable True)

theorem Cell.JsonRecoverable.recoverable {cell : Cell} (h : cell.JsonRecoverable) :
    cell.Recoverable := by
  cases cell with
  | decimal d => exact h
  | timeuuid u => exact h
  | _ => trivial

/-- The native value of a cell after a way through JSON: a timestamp stays the text that it became.
-/
def Cell.viaJson : Cell → Value
  | .timestamp t => .text t.toRfc3339
  | cell => cell.toNative

theorem Cell.viaJson_of_ne {cell : Cell} (h : ∀ t, cell ≠ .timestamp t) :
    cell.viaJson = cell.toNative := by
  rw [viaJson]
  exact h

/-- An integer of 64 bits is still one behind JSON. -/
theorem Payload.scalar_integer (n : Int64) : scalar (.integer n.toInt) = .ok (.int n) := by
  rw [scalar, Integer.toInt64?_toInt]

/-- The JSON form of a cell is read as a plain value. -/
theorem Payload.scalar_toJson {cell : Cell} (h : cell.JsonRecoverable) :
    scalar cell.toNative.toJson = .ok cell.viaJson := by
  cases cell with
  | decimal d | blob b => exact h.elim
  | double x =>
    have hjson : (Cell.double x).toNative.toJson = .real x := if_pos h
    rw [hjson]
    rfl
  | float x =>
    have hfinite : x.widen.isFinite = true := (Binary.Number.isFinite_widen x).trans h
    have hjson : (Cell.float x).toNative.toJson = .real x.widen := if_pos hfinite
    rw [hjson]
    rfl
  | int n => exact scalar_integer n.toInt64
  | bigint n => exact scalar_integer n
  | varint n =>
    have hvia : (Cell.varint n).viaJson = (Cell.varint n).toNative :=
      Cell.viaJson_of_ne fun t ht => by cases ht
    rw [hvia, Cell.toNative]
    split
    · next small _ => exact scalar_integer small
    · rfl
  | null => rfl
  | text s => rfl
  | uuid u => rfl
  | timeuuid u => rfl
  | timestamp t => rfl
  | inet a => rfl

/-- A cell is made of its value behind JSON again. -/
theorem Conversion.toCell_viaJson (mint : Mint) {type : ColumnType} {cell : Cell}
    (htype : cell = .null ∨ cell.columnType? = some type) (h : cell.JsonRecoverable) :
    toCell .honor mint type cell.viaJson = .ok cell := by
  cases cell with
  | timestamp t =>
    rcases htype with htype | htype
    · cases htype
    · cases htype
      have hvia : (Cell.timestamp t).viaJson = .text t.toRfc3339 := rfl
      rw [hvia, toCell]
      · exact toTimestamp_toRfc3339 h
      · intro typed htyped
        cases htyped
  | _ =>
    rw [Cell.viaJson_of_ne fun t ht => by cases ht]
    exact toCell_toNative mint htype h.recoverable

/-! ## All members -/

namespace Payload

/-- The entries of members with plain values. -/
def plain {α : Type} (value : α → Value) (members : List (String × α)) :
    List (String × Assignment) :=
  members.map fun m => (m.1, .value (value m.2))

/-- Members with plain values and names of their own become entries in their order. -/
theorem addMembers_of_scalars {α : Type} (json : α → Json) (value : α → Value)
    {members : List (String × α)} (h : ∀ m ∈ members, scalar (json m.2) = .ok (value m.2))
    {p : Payload} (hnodup : (p.columns ++ members.map Prod.fst).Nodup) :
    addMembers p (members.map fun m => (m.1, json m.2)) =
      .ok ⟨p.entries ++ plain value members⟩ := by
  have hforms :
      List.Forall₂ StandsFor (members.map fun m => (m.1, json m.2)) (plain value members) := by
    rw [plain, List.forall₂_map_left_iff, List.forall₂_map_right_iff, List.forall₂_same]
    intro m hm
    have hscalar := scalar_outcome (json m.2)
    rw [h m hm] at hscalar
    exact ⟨rfl, .plain hscalar⟩
  refine addMembers_of_forms hforms ?_
  rwa [List.map_map]

end Payload

/-! ## Bound values -/

theorem BindParams.binds_foldl_push (binds : List Bind) (ps : BindParams) :
    (binds.foldl push ps).params.map BindParam.bind = ps.params.map BindParam.bind ++ binds := by
  induction binds generalizing ps with
  | nil => rw [List.foldl_nil, List.append_nil]
  | cons b rest ih =>
    rw [List.foldl_cons, ih, push, List.map_append, List.append_assoc]
    rfl

/-- The keys of bound values do not change their cells. -/
theorem BindParams.toCells_ofBinds (binds : List Bind) (schema : Option Schema)
    (policy : UuidPolicy) (source : UuidSource) :
    (ofBinds binds).toCells schema policy source = Bind.toCells schema policy source binds := by
  rw [toCells, ofBinds, binds_foldl_push]
  rfl

/-- Values are turned into cells one by one. -/
theorem Bind.toCells_map {α : Type} {bind : α → Bind} {cell : α → Cell} {schema : Option Schema}
    {policy : UuidPolicy} {items : List α}
    (h : ∀ x ∈ items, ∀ mint, (bind x).toCell schema policy mint = .ok (cell x)) :
    ∀ source, toCells schema policy source (items.map bind) = .ok (items.map cell) := by
  induction items with
  | nil =>
    intro source
    rfl
  | cons x rest ih =>
    intro source
    rw [List.map_cons, toCells, h x List.mem_cons_self,
      ih fun y hy => h y (List.mem_cons_of_mem x hy)]
    rfl

/-- An INSERT of plain values writes what each of them is in its column. -/
theorem Statement.toCells_insert_plain {α : Type} (value : α → Value) (cell : α → Cell)
    {schema : Schema} {policy : UuidPolicy} {members : List (String × α)}
    (h : ∀ m ∈ members, ∀ mint,
      Conversion.convert policy mint schema m.1 (value m.2) = .ok (cell m.2))
    (table : String) (source : UuidSource) :
    (compile { operation := .insert, table, payload := some ⟨Payload.plain value members⟩
             }).params.toCells (some schema) policy source =
      .ok (members.map fun m => cell m.2) := by
  have hbinds : (Payload.mk (Payload.plain value members)).binds =
      members.map fun m => ⟨m.1, value m.2, .written⟩ := by
    rw [Payload.binds, Payload.plain, List.flatMap_map]
    exact List.map_eq_flatMap.symm
  rw [compile, binds]
  simp only
  rw [hbinds, List.flatMap_nil, List.append_nil, BindParams.toCells_ofBinds]
  exact Bind.toCells_map h source

/-! ## Rows -/

namespace Row

/-- The JSON object of a row has the JSON forms of its cells' values, in the order of the columns'
names. -/
theorem toJson_extract {columns : List String} {cells : List Cell} (distinct : columns.Nodup)
    (full : cells.length = columns.length) :
    ∃ sorted : List (String × Cell), sorted.Perm (columns.zip cells) ∧
      sorted.Pairwise (fun a b => a.1 < b.1) ∧
      toJson ⟨columns, cells.map (Cell.extract true)⟩ =
        .object (sorted.map fun m => (m.1, m.2.toNative.toJson)) := by
  have hpairs : (columns.zip (cells.map (Cell.extract true))).map (fun p => (p.1, p.2.toJson)) =
      (columns.zip cells).map fun m => (m.1, m.2.toNative.toJson) := by
    rw [List.zip_map_right, List.map_map]
    rfl
  have hnames : (((columns.zip cells).map fun m => (m.1, m.2.toNative.toJson)).map
      Prod.fst).Nodup := by
    have hfst : ((columns.zip cells).map fun m => (m.1, m.2.toNative.toJson)).map Prod.fst =
        columns := by
      rw [List.map_map]
      exact List.map_fst_zip (Nat.le_of_eq full.symm)
    rwa [hfst]
  obtain ⟨members, hobject, hordered, hperm⟩ := Json.ofMembers_of_nodup hnames
  -- What is a permutation of an image is the image of a permutation.
  obtain ⟨sorted, rfl, hsorted⟩ : ∃ sorted : List (String × Cell),
      members = sorted.map (fun m => (m.1, m.2.toNative.toJson)) ∧
        sorted.Perm (columns.zip cells) := by
    have hcomp := congrFun (congrFun (List.eq_map_comp_perm fun m : String × Cell =>
      (m.1, m.2.toNative.toJson)) members) (columns.zip cells)
    exact hcomp.mpr hperm
  rw [Json.Ordered, List.pairwise_map] at hordered
  refine ⟨sorted, hsorted, hordered, ?_⟩
  rw [toJson, pairs, hpairs, hobject]

end Row

/-- **A row read as JSON can be written back unchanged.** For a row of a result with a cell for each
column and no column twice, whose cells are null or of their column's type and recoverable from
JSON, the JSON object is a payload with a plain value for every column, in the order of their names,
and an INSERT of it writes the cells of the row. -/
theorem ResultSet.insert_ofJson_toJson {r : ResultSet} {i : Nat} {cells : List Cell}
    (hrow : r.rows[i]? = some cells) (distinct : r.columns.Nodup)
    (full : cells.length = r.columns.length) {schema : Schema}
    (fits : ∀ m ∈ r.columns.zip cells, ∃ type, schema.columnType? m.1 = some type ∧
      (m.2 = .null ∨ m.2.columnType? = some type) ∧ m.2.JsonRecoverable) :
    ∃ row payload, (r.extract true)[i]? = some row ∧ Payload.ofJson row.toJson = .ok payload ∧
      (∀ entry ∈ payload.entries, ∃ value, entry.2 = .value value) ∧
      payload.columns.Perm r.columns ∧ payload.columns.Pairwise (· < ·) ∧
      ∃ written : List Cell, (payload.columns.zip written).Perm (r.columns.zip cells) ∧
        written.length = payload.columns.length ∧
        ∀ (table : String) (source : UuidSource),
          (Statement.compile { operation := .insert, table, payload := some payload
                             }).params.toCells (some schema) .honor source = .ok written := by
  obtain ⟨sorted, hperm, hordered, hjson⟩ := Row.toJson_extract distinct full
  have hfits : ∀ m ∈ sorted, ∃ type, schema.columnType? m.1 = some type ∧
      (m.2 = .null ∨ m.2.columnType? = some type) ∧ m.2.JsonRecoverable := fun m hm =>
    fits m (hperm.mem_iff.mp hm)
  have hcolumns : (Payload.mk (Payload.plain Cell.viaJson sorted)).columns =
      sorted.map Prod.fst := by
    rw [Payload.columns, Payload.plain, List.map_map]
    rfl
  have hnames : (sorted.map Prod.fst).Perm r.columns := by
    have hfst := hperm.map Prod.fst
    rwa [List.map_fst_zip (Nat.le_of_eq full.symm)] at hfst
  refine ⟨_, ⟨Payload.plain Cell.viaJson sorted⟩, extract_get hrow true, ?_, ?_, ?_, ?_,
    sorted.map Prod.snd, ?_, ?_, fun table source => ?_⟩
  · have hscalar : ∀ m ∈ sorted, Payload.scalar m.2.toNative.toJson = .ok m.2.viaJson := by
      intro m hm
      obtain ⟨-, -, -, hrecoverable⟩ := hfits m hm
      exact Payload.scalar_toJson hrecoverable
    rw [hjson]
    have hdistinct : (Payload.empty.columns ++ sorted.map Prod.fst).Nodup :=
      hnames.nodup_iff.mpr distinct
    exact Payload.addMembers_of_scalars (fun cell => cell.toNative.toJson) Cell.viaJson hscalar
      hdistinct
  · intro entry hentry
    obtain ⟨m, -, rfl⟩ := List.mem_map.mp hentry
    exact ⟨_, rfl⟩
  · rwa [hcolumns]
  · rw [hcolumns]
    exact List.pairwise_map.mpr hordered
  · have hzip : sorted = (sorted.map Prod.fst).zip (sorted.map Prod.snd) :=
      List.zip_of_prod rfl rfl
    rwa [hcolumns, ← hzip]
  · rw [hcolumns, List.length_map, List.length_map]
  · refine Statement.toCells_insert_plain Cell.viaJson id (fun m hm mint => ?_) table source
    obtain ⟨type, hschema, htype, hrecoverable⟩ := hfits m hm
    exact Conversion.convert_of_ok hschema (Conversion.toCell_viaJson mint htype hrecoverable)

/-- A number of double precision that is whole and a timestamp, in columns out of order. -/
theorem ResultSet.insert_ofJson_toJson_reading :
    let schema := (Schema.empty "readings").withColumn "taken" .timestamp
      |>.withColumn "level" .double
    let epoch : Instant := ⟨0, 0, by decide, by decide, Or.inl (by decide)⟩
    let level : Cell := .double (.ofInt Binary.double 2)
    let r : ResultSet := ⟨["taken", "level"], [[.timestamp epoch, level]]⟩
    ∃ row payload, (r.extract true)[0]? = some row ∧ Payload.ofJson row.toJson = .ok payload ∧
      (∀ entry ∈ payload.entries, ∃ value, entry.2 = .value value) ∧
      payload.columns.Perm r.columns ∧ payload.columns.Pairwise (· < ·) ∧
      ∃ written : List Cell,
        (payload.columns.zip written).Perm (r.columns.zip [.timestamp epoch, level]) ∧
        written.length = payload.columns.length ∧
        ∀ (table : String) (source : UuidSource),
          (Statement.compile { operation := .insert, table, payload := some payload
                             }).params.toCells (some schema) .honor source = .ok written := by
  intro schema epoch level r
  refine insert_ofJson_toJson rfl (by decide) rfl ?_
  intro m hm
  rcases List.mem_cons.mp hm with rfl | hm
  · exact ⟨.timestamp, rfl, Or.inr rfl, by decide⟩
  · rw [List.mem_singleton.mp hm]
    exact ⟨.double, rfl, Or.inr rfl, by decide⟩

end WideColumn
