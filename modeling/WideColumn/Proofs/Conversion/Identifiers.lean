import WideColumn.Proofs.Conversion.TypeSoundness
import WideColumn.Proofs.Text.Words
import WideColumn.Statement.Compile

/-! # Notations of identifiers

Where identifiers are honored, one identifier is meant by its bytes and by all of its texts, in
either letter case and with white space around them. `Uuid.Denoted` says which values these are and
`Honored` what becomes of them in a column of identifiers; of the two kinds of columns, the one for
time-based identifiers looks at the version. Operands of a WHERE clause are looked up by what they
mean, so they are honored whatever happens to the values that are written. -/

namespace WideColumn

/-! ## Values of an identifier -/

namespace Uuid

/-- Whether a value denotes an identifier. White space around a text does not matter. -/
inductive Denoted (u : Uuid) : Value → Prop
  | bytes : Denoted u (.bytes u.bytes)
  | text {s : String} {before cs after : List Char} (hsplit : s.toList = before ++ cs ++ after)
    (hbefore : ∀ c ∈ before, Text.isBlank c = true) (hafter : ∀ c ∈ after, Text.isBlank c = true)
    (h : Written u cs) : Denoted u (.text s)

theorem readBytes_bytes (u : Uuid) : readBytes u.bytes = .ok u := by
  rw [readBytes, ofBytes?_bytes]

theorem readBytes_of_length_ne {bytes : List UInt8} (h : bytes.length ≠ 16) :
    readBytes bytes = .error (.byteCount bytes.length) := by
  have hnone : ofBytes? bytes = none := dif_neg h
  rw [readBytes, hnone]

end Uuid

namespace Conversion

/-- A value that denotes an identifier is kept as the identifier. -/
theorem toUuid_of_denoted {u : Uuid} {value : Value} (h : u.Denoted value) (type : ColumnType)
    (keep : Uuid → Except Fault Cell) : toUuid type keep value = keep u := by
  -- The equations of `toUuid` would open the reader of identifiers.
  delta toUuid
  cases h with
  | bytes => simp only [u.readBytes_bytes]
  | @text s before cs after hsplit hbefore hafter h =>
    have htrim : trimmed s = cs := by
      rw [trimmed, hsplit]
      exact Text.trimmedTo_iff.mp (.of_forall hbefore hafter h.isBlank_of_mem)
    simp only [htrim, h.read_eq]

/-- No value denotes two identifiers. -/
theorem uuid_eq_of_denoted {u v : Uuid} {value : Value} (hu : u.Denoted value)
    (hv : v.Denoted value) : u = v := by
  have heq := (toUuid_of_denoted hu .uuid keepUuid).symm.trans (toUuid_of_denoted hv .uuid keepUuid)
  cases heq
  rfl

/-! ## Columns of identifiers -/

/-- What becomes of a value in a column of identifiers where these are honored. -/
inductive Honored (column : String) : ColumnType → Value → Except Error Cell → Prop
  | uuid {u : Uuid} {value : Value} (h : u.Denoted value) :
    Honored column .uuid value (.ok (.uuid u))
  | timeuuid {u : Uuid} {value : Value} (h : u.Denoted value) (hversion : u.version = 1) :
    Honored column .timeuuid value (.ok (.timeuuid u))
  /-- An identifier of another version is refused and named. -/
  | notTimeBased {u : Uuid} {value : Value} (h : u.Denoted value) (hversion : u.version ≠ 1) :
    Honored column .timeuuid value
      (.error (.conversion column (u.toText ++ " is not a time-based (v1) uuid")))
  /-- Bytes of any other number than sixteen are refused. -/
  | size {type : ColumnType} {bytes : List UInt8} (htype : type = .uuid ∨ type = .timeuuid)
    (hsize : bytes.length ≠ 16) :
    Honored column type (.bytes bytes) (.error (.conversion column
      ("invalid uuid bytes: invalid length: expected 16 bytes, found " ++ toString bytes.length)))

section

variable {column : String} {type : ColumnType} {value : Value} {outcome : Except Error Cell}

theorem Honored.native (h : Honored column type value outcome) : ∀ cell, value ≠ .typed cell := by
  rintro cell rfl
  cases h with
  | uuid h | timeuuid h | notTimeBased h => cases h

/-- What a column of identifiers makes of a value, with the fault told as an error. -/
theorem Honored.taking_eq (h : Honored column type value outcome) :
    (taking type value).mapError (fun fault => .conversion column fault.message) = outcome := by
  cases h with
  | uuid h =>
    rw [taking, toUuid_of_denoted h]
    rfl
  | @timeuuid u _ h hversion =>
    have hkeep : keepTimeuuid u = .ok (.timeuuid u) := if_pos hversion
    rw [taking, toUuid_of_denoted h, hkeep]
    rfl
  | @notTimeBased u _ h hversion =>
    have hkeep : keepTimeuuid u = .error (.notTimeBased u) := if_neg hversion
    rw [taking, toUuid_of_denoted h, hkeep]
    rfl
  | @size type bytes htype hsize =>
    have hfault (type : ColumnType) (keep : Uuid → Except Fault Cell) :
        toUuid type keep (.bytes bytes) =
          .error (.malformedBytes (Uuid.ReadFault.byteCount bytes.length).message) := by
      delta toUuid
      simp only [Uuid.readBytes_of_length_ne hsize]
    rcases htype with rfl | rfl <;>
    · rw [taking, hfault]
      rfl

theorem Honored.convert_eq (h : Honored column type value outcome) {schema : Schema}
    (hcolumn : schema.columnType? column = some type) (mint : Mint) :
    convert .honor mint schema column value = outcome := by
  rw [convert, hcolumn]
  show (toCell .honor mint type value).mapError _ = outcome
  rw [toCell_eq_taking mint (Or.inl rfl) h.native, h.taking_eq]

/-- An operand whose column the schema has is converted as if identifiers were honored. -/
theorem toCell_of_mem_binds {schema : Schema} {p : Predicate} {b : Bind} (hb : b ∈ p.binds)
    (hcolumn : schema.columnType? b.column = some type) (policy : UuidPolicy) (mint : Mint) :
    b.toCell (some schema) policy mint = convert .honor mint schema b.column b.value := by
  obtain ⟨operand, -, rfl⟩ := List.mem_map.mp hb
  have hknown : schema.hasColumn p.field = true := by
    rw [Schema.hasColumn, hcolumn]
    rfl
  exact if_pos hknown

/-- An accepted identifier is given back as its text in lower case and in groups. -/
theorem Honored.toNative_eq (h : Honored column type value outcome) {u : Uuid}
    (hu : u.Denoted value) {cell : Cell} (hcell : outcome = .ok cell) :
    cell.toNative = .text u.toText := by
  cases h with
  | uuid h | timeuuid h =>
    cases hcell
    rw [uuid_eq_of_denoted hu h]
    rfl
  | notTimeBased | size => cases hcell

/-- **Honored identifiers have one meaning,** in whatever notation they are: the same cell, or the
same error, comes of all of them. An operand is honored under every policy. -/
theorem convert_of_honored (h : Honored column type value outcome) {schema : Schema}
    (hcolumn : schema.columnType? column = some type) :
    (∀ mint, convert .honor mint schema column value = outcome) ∧
    (∀ (policy : UuidPolicy) (mint : Mint) (p : Predicate), ∀ b ∈ p.binds, b.column = column →
      b.value = value → b.toCell (some schema) policy mint = outcome) ∧
    ∀ (u : Uuid) (cell : Cell), u.Denoted value → outcome = .ok cell →
      cell.toNative = .text u.toText ∧ u.Grouped Text.LowerDigit u.toText.toList := by
  refine ⟨h.convert_eq hcolumn, ?_, ?_⟩
  · rintro policy mint p b hb rfl rfl
    rw [toCell_of_mem_binds hb hcolumn]
    exact h.convert_eq hcolumn mint
  · intro u cell hu hcell
    refine ⟨h.toNative_eq hu hcell, ?_⟩
    rw [Uuid.toText, String.toList_ofList]
    exact u.grouped_hyphenated

/-- A time-based identifier in upper case between blanks, written to a client that mints identifiers
and looked up by it. -/
theorem convert_of_honored_upper_case :
    let u : Uuid := ⟨[0xc2, 0x32, 0xab, 0x00, 0x94, 0x14, 0x11, 0xec, 0xb3, 0xc8, 0x9f, 0x68, 0xaa,
      0x4c, 0xf9, 0x11], rfl⟩
    let value : Value := .text "\u00a0C232AB00-9414-11EC-B3C8-9F68AA4CF911\n"
    let schema : Schema := ⟨"events", [("at", .timeuuid)]⟩
    let p : Predicate := { field := "at", condition := .eq value }
    Honored "at" .timeuuid value (.ok (.timeuuid u)) ∧ schema.columnType? "at" = some .timeuuid ∧
      (∀ mint, convert .honor mint schema "at" value = .ok (.timeuuid u)) ∧
      ∀ mint, ∀ b ∈ p.binds, b.toCell (some schema) .generate mint = .ok (.timeuuid u) := by
  intro u value schema p
  have hdigits : Text.InHex Text.CaselessDigit u.bytes
      ("C232AB00".toList ++ "9414".toList ++ "11EC".toList ++ "B3C8".toList ++
        "9F68AA4CF911".toList) := .of_ofHex? (by decide)
  have hdenoted : u.Denoted value :=
    @Uuid.Denoted.text u _ ['\u00a0'] _ ['\n'] rfl (List.forall_mem_singleton.mpr rfl)
      (List.forall_mem_singleton.mpr rfl) (.grouped (.groups rfl rfl rfl rfl rfl hdigits))
  have hversion : u.version = 1 := by decide
  have hhonored : Honored "at" .timeuuid value (.ok (.timeuuid u)) := .timeuuid hdenoted hversion
  have hcolumn : schema.columnType? "at" = some .timeuuid := by decide
  obtain ⟨hwritten, hoperand, -⟩ := convert_of_honored hhonored hcolumn
  refine ⟨hhonored, hcolumn, hwritten, fun mint b hb => ?_⟩
  obtain rfl := List.mem_singleton.mp hb
  exact hoperand .generate mint p _ hb rfl rfl

end

end Conversion

end WideColumn
