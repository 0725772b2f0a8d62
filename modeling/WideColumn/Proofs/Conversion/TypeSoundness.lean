import WideColumn.Proofs.Conversion.Minting
import WideColumn.Proofs.Conversion.NativeValues

/-! # Type soundness

What a column is given is a cell of the column's type, or null where null was given, or an error
that names the column. The primitive columns are the exception: they take the cell that a value has
by itself, and integers alone are checked against the range of `int`. Whatever type an integer goes
through, it is the same integer afterwards. -/

namespace WideColumn

/-- Whether columns of a type take the cells that values have by themselves. -/
def ColumnType.isPrimitive : ColumnType → Bool
  | int | varchar | double => true
  | _ => false

/-- Whether columns of a type store integers as integers. -/
def ColumnType.keepsIntegers : ColumnType → Bool
  | int | bigint | varint | varchar | double => true
  | _ => false

namespace Conversion

/-! ## One column type at a time -/

/-- Whether a conversion makes cells of a type of everything but null, which stays as it is. -/
structure Makes (type : ColumnType) (convert : Value → Except Fault Cell) : Prop where
  null : convert .null = .ok .null
  columnType?_eq : ∀ {value cell}, value ≠ .null → convert value = .ok cell →
    cell.columnType? = some type

theorem columnType?_of_accept {α ε : Type} {type : ColumnType} {text : String}
    {message : ε → String} {toCell : α → Cell} {x : Except ε α} {cell : Cell}
    (hcell : ∀ x, (toCell x).columnType? = some type)
    (h : accept type text message toCell x = .ok cell) : cell.columnType? = some type := by
  cases x with
  | error e => cases h
  | ok x =>
    cases h
    exact hcell x

theorem makes_bigint : Makes .bigint toBigint where
  null := rfl
  columnType?_eq {value cell} hvalue h := by
    cases value with
    | null => exact absurd rfl hvalue
    | int n => cases h; rfl
    | text s => exact columnType?_of_accept (fun _ => rfl) h
    | _ => cases h

theorem makes_varint : Makes .varint toVarint where
  null := rfl
  columnType?_eq {value cell} hvalue h := by
    cases value with
    | null => exact absurd rfl hvalue
    | int n => cases h; rfl
    | text s => exact columnType?_of_accept (fun _ => rfl) h
    | _ => cases h

theorem makes_decimal : Makes .decimal toDecimal where
  null := rfl
  columnType?_eq {value cell} hvalue h := by
    cases value with
    | null => exact absurd rfl hvalue
    | int n => cases h; rfl
    | double x =>
      unfold toDecimal at h
      dsimp only at h
      split at h <;> cases h
      rfl
    | text s => exact columnType?_of_accept (fun _ => rfl) h
    | _ => cases h

theorem columnType?_of_narrow {x : Binary.Double} {cell : Cell} (h : narrow x = .ok cell) :
    cell.columnType? = some .float := by
  rw [narrow] at h
  split at h <;> cases h
  rfl

theorem makes_float : Makes .float toFloat where
  null := rfl
  columnType?_eq {value cell} hvalue h := by
    cases value with
    | null => exact absurd rfl hvalue
    | int n => cases h; rfl
    | double x => exact columnType?_of_narrow h
    | text s =>
      unfold toFloat at h
      dsimp only at h
      split at h
      · exact columnType?_of_narrow h
      · cases h
    | _ => cases h

theorem makes_blob : Makes .blob toBlob where
  null := rfl
  columnType?_eq {value cell} hvalue h := by
    cases value with
    | null => exact absurd rfl hvalue
    | bytes b | text s => cases h; rfl
    | _ => cases h

theorem makes_inet : Makes .inet toInet where
  null := rfl
  columnType?_eq {value cell} hvalue h := by
    cases value with
    | null => exact absurd rfl hvalue
    | text s =>
      unfold toInet at h
      dsimp only at h
      split at h <;> cases h
      rfl
    | _ => cases h

theorem makes_timestamp : Makes .timestamp toTimestamp where
  null := rfl
  columnType?_eq {value cell} hvalue h := by
    cases value with
    | null => exact absurd rfl hvalue
    | timestamp t => cases h; rfl
    | int n =>
      unfold toTimestamp at h
      dsimp only at h
      split at h <;> cases h
      rfl
    | text s =>
      unfold toTimestamp at h
      dsimp only at h
      split at h <;> cases h
      rfl
    | _ => cases h

/-- Identifiers become cells of a type if what keeps them makes such cells. -/
theorem makes_uuid {type : ColumnType} {keep : Uuid → Except Fault Cell}
    (hkeep : ∀ {u cell}, keep u = .ok cell → cell.columnType? = some type) :
    Makes type (toUuid type keep) where
  null := rfl
  columnType?_eq {value cell} hvalue h := by
    cases value with
    | null => exact absurd rfl hvalue
    | text s =>
      unfold toUuid at h
      dsimp only at h
      split at h
      · exact hkeep h
      · cases h
    | bytes b =>
      unfold toUuid at h
      dsimp only at h
      split at h
      · exact hkeep h
      · cases h
    | _ => cases h

theorem columnType?_of_keepUuid {u : Uuid} {cell : Cell} (h : keepUuid u = .ok cell) :
    cell.columnType? = some .uuid := by
  cases h
  rfl

theorem columnType?_of_keepTimeuuid {u : Uuid} {cell : Cell} (h : keepTimeuuid u = .ok cell) :
    cell.columnType? = some .timeuuid := by
  rw [keepTimeuuid] at h
  split at h <;> cases h
  rfl

/-! ## All columns -/

/-- What a column of a type makes of a value that is no cell already, if the value is not replaced
by a minted one. -/
def taking : ColumnType → Value → Except Fault Cell
  | .int => toInt
  | .varchar | .double => fun value => .ok value.infer
  | .bigint => toBigint
  | .decimal => toDecimal
  | .float => toFloat
  | .varint => toVarint
  | .blob => toBlob
  | .uuid => toUuid .uuid keepUuid
  | .timeuuid => toUuid .timeuuid keepTimeuuid
  | .inet => toInet
  | .timestamp => toTimestamp

theorem makes_taking {type : ColumnType} (h : type.isPrimitive = false) :
    Makes type (taking type) := by
  cases type with
  | int | varchar | double => cases h
  | bigint => exact makes_bigint
  | decimal => exact makes_decimal
  | float => exact makes_float
  | varint => exact makes_varint
  | blob => exact makes_blob
  | uuid => exact makes_uuid columnType?_of_keepUuid
  | timeuuid => exact makes_uuid columnType?_of_keepTimeuuid
  | inet => exact makes_inet
  | timestamp => exact makes_timestamp

theorem toCell_eq_taking (mint : Mint) {policy : UuidPolicy} {type : ColumnType}
    (h : policy.Takes type) {value : Value} (hnative : ∀ cell, value ≠ .typed cell) :
    toCell policy mint type value = taking type value := by
  -- Where identifiers are not replaced, the policy makes no difference.
  have hhonor : toCell policy mint type value = toCell .honor mint type value := by
    rcases h with rfl | ⟨huuid, htimeuuid⟩
    · rfl
    · exact toCell_eq_of_ne policy .honor mint mint huuid htimeuuid value
  rw [hhonor]
  cases value with
  | typed cell => exact absurd rfl (hnative cell)
  | _ => cases type <;> rfl

/-- An identifier is minted where values are replaced. -/
theorem exists_minted (mint : Mint) {policy : UuidPolicy} {type : ColumnType}
    (h : ¬ policy.Takes type) {value : Value} (hnative : ∀ cell, value ≠ .typed cell) :
    ∃ cell, toCell policy mint type value = .ok cell ∧ cell.columnType? = some type := by
  cases policy with
  | honor => exact absurd (Or.inl rfl) h
  | generate =>
    cases type with
    | uuid => exact ⟨_, toCell_generate_uuid mint hnative, rfl⟩
    | timeuuid => exact ⟨_, toCell_generate_timeuuid mint hnative, rfl⟩
    | _ => exact absurd (Or.inr ⟨nofun, nofun⟩) h

/-! ## Integers -/

/-- An integer by itself is the same integer, whichever of the two widths it takes. -/
theorem toNative_infer_int (n : Int64) : (Value.int n).infer.toNative = .int n := by
  rw [Value.infer]
  cases hsmall : Integer.toInt32? n.toInt with
  | none => rfl
  | some small =>
    have hwide : small.toInt64.toInt = n.toInt := by
      rw [Int32.toInt_toInt64, Integer.toInt32?_eq_some.mp hsmall]
    exact congrArg Value.int (Int64.toInt_inj.mp hwide)

theorem toInt_int_of_eq {n : Int64} {small : Int32} (h : small.toInt = n.toInt) :
    toInt (.int n) = .ok (.int small) := by
  rw [toInt, Integer.toInt32?_eq_some.mpr h]

theorem exists_toInt_int_eq_error {n : Int64} (h : ∀ small : Int32, small.toInt ≠ n.toInt) :
    ∃ fault, toInt (.int n) = .error fault := by
  have hnone : Integer.toInt32? n.toInt = none :=
    Option.eq_none_iff_forall_ne_some.mpr fun small hsmall =>
      h small (Integer.toInt32?_eq_some.mp hsmall)
  exact ⟨.outOfRange (Text.ofInt n.toInt) .int, by rw [toInt, hnone]⟩

/-- Values of other kinds are not checked. -/
theorem toInt_of_ne {value : Value} (h : ∀ n, value ≠ .int n) : toInt value = .ok value.infer := by
  cases value with
  | int n => exact absurd rfl (h n)
  | _ => rfl

/-- An integer that a column takes stays the integer that it is. -/
theorem toNative_of_taking_int {type : ColumnType} (htype : type.keepsIntegers = true) {n : Int64}
    {cell : Cell} (h : taking type (.int n) = .ok cell) : cell.toNative = .int n := by
  cases type with
  | int =>
    simp only [taking, toInt] at h
    split at h
    · next small hsmall =>
      cases h
      have hinfer := toNative_infer_int n
      rwa [Value.infer, hsmall] at hinfer
    · cases h
  | varchar | double =>
    cases h
    exact toNative_infer_int n
  | bigint =>
    cases h
    rfl
  | varint =>
    cases h
    exact toNative_varint n
  | _ => cases htype

/-- Only columns of 32 bits refuse an integer. -/
theorem exists_taking_int {type : ColumnType} (htype : type.keepsIntegers = true)
    (hint : type ≠ .int) (n : Int64) : ∃ cell, taking type (.int n) = .ok cell := by
  cases type with
  | int => exact absurd rfl hint
  | varchar | double | bigint | varint => exact ⟨_, rfl⟩
  | _ => cases htype

/-! ## Soundness -/

/-- What may come of a value in a column of a type. -/
structure Sound (policy : UuidPolicy) (column : String) (type : ColumnType) (value : Value)
    (result : Except Error Cell) : Prop where
  /-- An error is one of conversion and names the column. -/
  error : ∀ error, result = .error error → ∃ message, error = .conversion column message
  /-- A cell is null or of the column's type, where the type is not primitive. -/
  typed : type.isPrimitive = false → ∀ cell, result = .ok cell →
    cell = .null ∨ cell.columnType? = some type
  /-- Nothing else than null becomes null. -/
  null_only : type.isPrimitive = false → result = .ok .null → value = .null
  /-- Null stays null where values are not replaced. -/
  null : type.isPrimitive = false → value = .null → policy.Takes type → result = .ok .null
  /-- Where they are, there is a cell, whatever the value is, and it is never null. -/
  minted : ¬ policy.Takes type → ∃ cell, result = .ok cell ∧ cell ≠ .null
  /-- An integer of 32 bits goes into an `int` column. -/
  int : type = .int → ∀ n, value = .int n → ∀ small : Int32, small.toInt = n.toInt →
    result = .ok (.int small)
  /-- Any other integer does not. -/
  int_outside : type = .int → ∀ n, value = .int n → (∀ small : Int32, small.toInt ≠ n.toInt) →
    ∃ error, result = .error error
  /-- What is no integer goes into an `int` column as it is. -/
  int_other : type = .int → (∀ n, value ≠ .int n) → result = .ok value.infer
  /-- So does everything that goes into the other primitive columns. -/
  primitive : type = .varchar ∨ type = .double → result = .ok value.infer
  /-- An integer is neither wrapped nor cut off. -/
  integer : type.keepsIntegers = true → ∀ n, value = .int n → ∀ cell, result = .ok cell →
    cell.toNative = .int n
  /-- Only `int` columns refuse integers. -/
  integer_taken : type.keepsIntegers = true → type ≠ .int → ∀ n, value = .int n →
    ∃ cell, result = .ok cell

section

variable {policy : UuidPolicy} {mint : Mint} {column : String} {type : ColumnType} {value : Value}

theorem convertTyped_of_error {fault : Fault} (h : toCell policy mint type value = .error fault) :
    convertTyped policy mint column type value = .error (.conversion column fault.message) := by
  rw [convertTyped, h]
  rfl

/-- The cell of a value does not depend on the name of its column. -/
theorem toCell_of_convertTyped {cell : Cell}
    (h : convertTyped policy mint column type value = .ok cell) :
    toCell policy mint type value = .ok cell := by
  cases hcell : toCell policy mint type value with
  | ok made =>
    rw [convertTyped_of_ok hcell column] at h
    exact congrArg Except.ok (Except.ok.inj h)
  | error fault =>
    rw [convertTyped_of_error hcell] at h
    cases h

/-- What goes wrong goes wrong with the column. -/
theorem exists_of_convertTyped_eq_error {error : Error}
    (h : convertTyped policy mint column type value = .error error) :
    ∃ message, error = .conversion column message := by
  cases hcell : toCell policy mint type value with
  | ok made =>
    rw [convertTyped_of_ok hcell column] at h
    cases h
  | error fault =>
    rw [convertTyped_of_error hcell] at h
    cases h
    exact ⟨_, rfl⟩

/-- Columns that keep integers are not columns of identifiers. -/
theorem takes_of_keepsIntegers (policy : UuidPolicy) (h : type.keepsIntegers = true) :
    policy.Takes type := by
  refine Or.inr ⟨?_, ?_⟩ <;> rintro rfl <;> cases h

/-- **Conversion is type-sound:** a value that is no cell already becomes a cell of its column's
type, with no other exceptions than those told. -/
theorem convertTyped_sound (policy : UuidPolicy) (mint : Mint) (column : String)
    (type : ColumnType) {value : Value} (hnative : ∀ cell, value ≠ .typed cell) :
    Sound policy column type value (convertTyped policy mint column type value) := by
  have htaking {result : Except Fault Cell} (htakes : policy.Takes type)
      (h : taking type value = result) : toCell policy mint type value = result :=
    (toCell_eq_taking mint htakes hnative).trans h
  have hnull (hvalue : value = .null) (htakes : policy.Takes type) :
      toCell policy mint type value = .ok .null := by
    rw [hvalue]
    exact toCell_null mint htakes
  -- A cell is made of the value or minted, and is of the column's type in both cases.
  have htyped (hprimitive : type.isPrimitive = false) {cell : Cell}
      (hcell : toCell policy mint type value = .ok cell)
      (hor : value ≠ .null ∨ ¬ policy.Takes type) : cell.columnType? = some type := by
    by_cases htakes : policy.Takes type
    · have hvalue := hor.resolve_right (not_not_intro htakes)
      rw [toCell_eq_taking mint htakes hnative] at hcell
      exact (makes_taking hprimitive).columnType?_eq hvalue hcell
    · obtain ⟨minted, hminted, htype⟩ := exists_minted mint htakes hnative
      cases hminted.symm.trans hcell
      exact htype
  constructor
  case error => exact fun error => exists_of_convertTyped_eq_error
  case typed =>
    intro hprimitive cell h
    have hcell := toCell_of_convertTyped h
    by_cases hexception : value = .null ∧ policy.Takes type
    · cases (hnull hexception.1 hexception.2).symm.trans hcell
      exact Or.inl rfl
    · exact Or.inr (htyped hprimitive hcell (not_and_or.mp hexception))
  case null_only =>
    intro hprimitive h
    by_contra hvalue
    cases htyped hprimitive (toCell_of_convertTyped h) (Or.inl hvalue)
  case null => exact fun _ hvalue htakes => convertTyped_of_ok (hnull hvalue htakes) column
  case minted =>
    intro htakes
    obtain ⟨cell, hcell, htype⟩ := exists_minted mint htakes hnative
    refine ⟨cell, convertTyped_of_ok hcell column, ?_⟩
    rintro rfl
    cases htype
  case int =>
    rintro rfl n rfl small hsmall
    exact convertTyped_of_ok
      (htaking (takes_of_keepsIntegers policy rfl) (toInt_int_of_eq hsmall)) column
  case int_outside =>
    rintro rfl n rfl houtside
    obtain ⟨fault, hfault⟩ := exists_toInt_int_eq_error houtside
    exact ⟨_, convertTyped_of_error (htaking (takes_of_keepsIntegers policy rfl) hfault)⟩
  case int_other =>
    rintro rfl hother
    exact convertTyped_of_ok
      (htaking (takes_of_keepsIntegers policy rfl) (toInt_of_ne hother)) column
  case primitive =>
    rintro (rfl | rfl) <;>
      exact convertTyped_of_ok (htaking (takes_of_keepsIntegers policy rfl) rfl) column
  case integer =>
    rintro hkeeps n rfl cell h
    have hcell := toCell_of_convertTyped h
    rw [toCell_eq_taking mint (takes_of_keepsIntegers policy hkeeps) hnative] at hcell
    exact toNative_of_taking_int hkeeps hcell
  case integer_taken =>
    rintro hkeeps hint n rfl
    obtain ⟨cell, hcell⟩ := exists_taking_int hkeeps hint n
    exact ⟨cell, convertTyped_of_ok (htaking (takes_of_keepsIntegers policy hkeeps) hcell) column⟩

/-- The first integer beyond 32 bits: an `int` column refuses it by name, and a `varint` column
keeps it. -/
theorem convertTyped_sound_wide :
    let value : Value := .int 2147483648
    (∀ cell, value ≠ .typed cell) ∧ ∀ mint : Mint,
      (∃ message, convertTyped .generate mint "n" .int value = .error (.conversion "n" message)) ∧
      ∃ cell, convertTyped .generate mint "n" .varint value = .ok cell ∧ cell.toNative = value := by
  intro value
  have hnative : ∀ cell, value ≠ .typed cell := fun _ => Value.noConfusion
  refine ⟨hnative, fun mint => ⟨?_, ?_⟩⟩
  · have hsound := convertTyped_sound .generate mint "n" .int hnative
    have houtside : ∀ small : Int32, small.toInt ≠ (2147483648 : Int64).toInt := fun small =>
      Int.ne_of_lt small.toInt_lt
    obtain ⟨error, herror⟩ := hsound.int_outside rfl 2147483648 rfl houtside
    obtain ⟨message, rfl⟩ := hsound.error error herror
    exact ⟨message, herror⟩
  · have hsound := convertTyped_sound .generate mint "n" .varint hnative
    obtain ⟨cell, hcell⟩ := hsound.integer_taken rfl nofun 2147483648 rfl
    exact ⟨cell, hcell, hsound.integer rfl 2147483648 rfl cell hcell⟩

end

end Conversion

end WideColumn
