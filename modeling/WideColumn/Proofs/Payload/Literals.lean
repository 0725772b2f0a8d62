import WideColumn.Payload.Basic
import WideColumn.Proofs.Conversion.IntegerText
import WideColumn.Proofs.Conversion.Timestamps
import WideColumn.Proofs.Text.Hexadecimal

/-! # Literals

A value that is written only where a column has none stands in the statement as a literal. What the
literal says is what the value is: integers and bytes are read back from it, and an instant is
counted in whole milliseconds, which a column of timestamps takes as the instant that they count,
before 1970 as well as after. -/

namespace WideColumn

open Conversion (convertTyped)
open Integer (Canonical)
open Text (InHex LowerDigit)

/-! ## Which values have literals -/

theorem Cell.toNative_eq_null {cell : Cell} : cell.toNative = .null ↔ cell = .null := by
  have hnull := cell.isNull_toNative
  constructor
  · intro h
    rw [h] at hnull
    cases cell with
    | null => rfl
    | _ => cases hnull
  · rintro rfl
    rfl

namespace Value

/-- How a value is written as a literal. A typed cell is written in the way of its native value,
which might be a typed cell again: a derivation is a way down that ends. -/
inductive Renders : Value → Option String → Prop
  | native {value : Value} (h : ∀ cell, value ≠ .typed cell) :
    Renders value value.literalOfNative
  | typed {cell : Cell} {literal : Option String} (h : Renders cell.toNative literal) :
    Renders (.typed cell) literal

theorem literal?_of_ne_typed {value : Value} (h : ∀ cell, value ≠ .typed cell) :
    value.literal? = value.literalOfNative := by
  cases value with
  | typed cell => exact absurd rfl (h cell)
  | _ => rfl

/-- A typed cell has the literal of its native value. -/
theorem literal?_typed (cell : Cell) : (typed cell).literal? = cell.toNative.literal? :=
  (literal?_of_ne_typed cell.toNative_ne_typed).symm

/-- **Every value is written in one way.** The native value of a cell is no cell, so there is no way
down of more than one step. -/
theorem renders_iff {value : Value} {literal : Option String} :
    value.Renders literal ↔ value.literal? = literal := by
  constructor
  · intro h
    induction h with
    | native h => exact literal?_of_ne_typed h
    | typed _ ih => rw [literal?_typed, ih]
  · rintro rfl
    by_cases h : ∃ cell, value = .typed cell
    · -- The native value of the cell is written at once.
      obtain ⟨cell, rfl⟩ := h
      exact .typed (.native cell.toNative_ne_typed)
    · have hnative : ∀ cell, value ≠ .typed cell := fun cell hcell => h ⟨cell, hcell⟩
      rw [literal?_of_ne_typed hnative]
      exact .native hnative

theorem literalOfNative_eq_none {value : Value} (h : ∀ cell, value ≠ .typed cell) :
    value.literalOfNative = none ↔ value = .null := by
  cases value with
  | null => exact iff_of_true rfl rfl
  | typed cell => exact absurd rfl (h cell)
  | _ => simp [literalOfNative]

/-- Only null has no literal, be it a cell or not. -/
theorem literal?_eq_none {value : Value} :
    value.literal? = none ↔ value = .null ∨ value = .typed .null := by
  cases value with
  | typed cell =>
    show cell.toNative.literalOfNative = none ↔ _
    rw [literalOfNative_eq_none cell.toNative_ne_typed, Cell.toNative_eq_null]
    simp
  | _ => simp [literal?, literalOfNative]

end Value

/-! ## Words -/

/-- Whether a text is the numeral of a word, and columns of integers take it as the word. -/
structure WordLiteral (n : Int64) (text : String) : Prop where
  canonical : Canonical n.toInt text.toList
  bigint : ∀ policy mint column,
    convertTyped policy mint column .bigint (.text text) = .ok (.bigint n)
  varint : ∀ policy mint column,
    convertTyped policy mint column .varint (.text text) = .ok (.varint n.toInt)

theorem wordLiteral_ofInt (n : Int64) : WordLiteral n (Text.ofInt n.toInt) := by
  have hcanonical : Canonical n.toInt (Text.ofInt n.toInt).toList := by
    rw [Text.ofInt, String.toList_ofList]
    exact Integer.canonical_signedNumeral n.toInt
  have hwritten := hcanonical.written
  have htrim : Text.TrimmedTo (Text.ofInt n.toInt).toList (Text.ofInt n.toInt).toList := by
    have hall := @Text.TrimmedTo.of_forall [] _ [] (List.forall_mem_nil _)
      (List.forall_mem_nil _) hwritten.isBlank_of_mem
    rwa [List.nil_append, List.append_nil] at hall
  constructor
  case canonical => exact hcanonical
  case bigint =>
    intro policy mint column
    refine Conversion.convertTyped_of_ok ?_ column
    rw [Conversion.toCell_bigint_text]
    exact Conversion.toBigint_text_iff.mpr ⟨n, rfl, _, htrim, hwritten⟩
  case varint =>
    intro policy mint column
    refine Conversion.convertTyped_of_ok ?_ column
    rw [Conversion.toCell_varint_text]
    exact Conversion.toVarint_of_written htrim hwritten

/-! ## Instants -/

namespace Instant

/-- Nanoseconds since the start of 1970. -/
def toNanos (t : Instant) : Int := t.seconds * 1000000000 + t.nanos

/-- The start of the millisecond of an instant. -/
def startOfMilli (t : Instant) : Instant :=
  { t with
    nanos := t.nanos / 1000000 * 1000000
    nanos_lt := by
      have hnanos := t.nanos_lt
      omega }

@[simp] theorem seconds_startOfMilli (t : Instant) : t.startOfMilli.seconds = t.seconds := rfl

@[simp] theorem nanos_startOfMilli (t : Instant) :
    t.startOfMilli.nanos = t.nanos / 1000000 * 1000000 := rfl

/-- The milliseconds of an instant are its nanoseconds divided, rounding down. -/
theorem toMillis_eq (t : Instant) : t.toMillis = t.toNanos / 1000000 := by
  unfold toMillis toNanos
  omega

theorem toNanos_startOfMilli (t : Instant) :
    t.startOfMilli.toNanos = t.toNanos / 1000000 * 1000000 := by
  rw [toNanos, seconds_startOfMilli, nanos_startOfMilli, toNanos]
  omega

theorem toMillis_startOfMilli (t : Instant) : t.startOfMilli.toMillis = t.toMillis := by
  rw [toMillis_eq, toMillis_eq, toNanos_startOfMilli]
  omega

/-- Whether an instant is another one, rounded down to the millisecond. -/
structure RoundedDown (t floor : Instant) : Prop where
  whole : floor.toNanos % 1000000 = 0
  isLeap_eq : floor.isLeap = false
  le : floor.toNanos ≤ t.toNanos
  lt : t.toNanos < floor.toNanos + 1000000

theorem roundedDown_startOfMilli {t : Instant} (h : t.isLeap = false) :
    RoundedDown t t.startOfMilli := by
  have hfloor := t.toNanos_startOfMilli
  constructor
  case isLeap_eq =>
    rw [isLeap, decide_eq_false_iff_not] at h ⊢
    rw [nanos_startOfMilli]
    omega
  all_goals omega

/-- An instant of whole milliseconds is the start of its own. -/
theorem startOfMilli_eq {t : Instant} (h : t.nanos % 1000000 = 0) : t.startOfMilli = t := by
  have hnanos : t.nanos / 1000000 * 1000000 = t.nanos := by omega
  simp only [startOfMilli, hnanos]

/-- Whether a word counts the milliseconds of an instant, so that a column of timestamps takes it as
the instant rounded down. -/
structure CountedBy (t : Instant) (millis : Int64) (floor : Instant) : Prop where
  millis_eq : millis.toInt = t.toNanos / 1000000
  rounded : RoundedDown t floor
  taken : ∀ policy mint column,
    convertTyped policy mint column .timestamp (.int millis) = .ok (.timestamp floor)
  /-- Where nothing is rounded off the column takes the instant itself as the same cell. -/
  bound : t.nanos % 1000000 = 0 → floor = t ∧ ∀ policy mint column,
    convertTyped policy mint column .timestamp (.timestamp t) = .ok (.timestamp floor)

theorem countedBy_toMillis {t : Instant} (h : t.isLeap = false) :
    CountedBy t (.ofInt t.toMillis) t.startOfMilli := by
  have hrounded := roundedDown_startOfMilli h
  constructor
  case millis_eq => rw [toInt_toMillis, toMillis_eq]
  case rounded => exact hrounded
  case taken =>
    intro policy mint column
    -- The start of the millisecond has the same count, and is whole.
    have hwhole : t.startOfMilli.nanos % 1000000 = 0 := Nat.mul_mod_left _ _
    have hcell := Conversion.toTimestamp_of_denoted (.millis hwhole hrounded.isLeap_eq)
    rw [toMillis_startOfMilli] at hcell
    refine Conversion.convertTyped_of_ok ?_ column
    rw [Conversion.toCell_timestamp_int, hcell]
  case bound =>
    intro hwhole
    rw [startOfMilli_eq hwhole]
    exact ⟨rfl, fun policy mint column => Conversion.convertTyped_of_ok rfl column⟩

end Instant

/-! ## All values -/

/-- **Literals are faithful.** Every value is written in one way, and without a literal exactly if
it is null; a cell is written like its native value; and words, bytes and instants are found again
in their literals. -/
theorem ifMissing_faithful :
    (∀ value : Value, ∃ literal, (∀ other, value.Renders other ↔ other = literal) ∧
        Assignment.ifMissing value = .coalesce literal ∧
        (literal = none ↔ value = .null ∨ value = .typed .null)) ∧
      (∀ cell : Cell,
        Assignment.ifMissing (.typed cell) = Assignment.ifMissing cell.toNative) ∧
      (∀ n : Int64, ∃ text, Assignment.ifMissing (.int n) = .coalesce (some text) ∧
        WordLiteral n text) ∧
      (∀ bytes : List UInt8, ∃ digits : String,
        Assignment.ifMissing (.bytes bytes) = .coalesce (some ("0x" ++ digits)) ∧
          InHex LowerDigit bytes digits.toList ∧ digits.toList.length = 2 * bytes.length ∧
          Text.ofHex? digits.toList = some bytes) ∧
      ∀ t : Instant, t.isLeap = false → ∃ (millis : Int64) (text : String) (floor : Instant),
        Assignment.ifMissing (.timestamp t) = .coalesce (some text) ∧ WordLiteral millis text ∧
          t.CountedBy millis floor := by
  refine ⟨fun value => ?_, fun cell => ?_, fun n => ?_, fun bytes => ?_, fun t ht => ?_⟩
  · refine ⟨value.literal?, fun other => ?_, rfl, Value.literal?_eq_none⟩
    rw [Value.renders_iff, eq_comm]
  · exact congrArg Assignment.coalesce (Value.literal?_typed cell)
  · exact ⟨_, rfl, wordLiteral_ofInt n⟩
  · have hdigits := Text.inHex_hex bytes
    refine ⟨String.ofList (Text.hex bytes), ?_, ?_⟩
    · have htext : String.ofList ("0x".toList ++ Text.hex bytes) =
          "0x" ++ String.ofList (Text.hex bytes) := by
        rw [String.ofList_append, String.ofList_toList]
      exact congrArg (fun text => Assignment.coalesce (some text)) htext
    · rw [String.toList_ofList]
      exact ⟨hdigits, hdigits.length_eq, (hdigits.imp LowerDigit.caseless).ofHex?_eq⟩
  · -- The literal of an instant is that of the word of its milliseconds.
    have hword := wordLiteral_ofInt (.ofInt t.toMillis)
    rw [t.toInt_toMillis] at hword
    exact ⟨.ofInt t.toMillis, _, t.startOfMilli, rfl, hword, Instant.countedBy_toMillis ht⟩

/-- A nanosecond earlier than a second and a half before 1970: the literal counts one millisecond
more, away from zero. -/
theorem ifMissing_faithful_before_1970 :
    let t : Instant := ⟨-2, 499999999, by decide, by decide, by decide⟩
    t.isLeap = false ∧ Assignment.ifMissing (.timestamp t) = .coalesce (some "-1501") ∧
      ∃ (millis : Int64) (text : String) (floor : Instant),
        Assignment.ifMissing (.timestamp t) = .coalesce (some text) ∧ WordLiteral millis text ∧
          t.CountedBy millis floor := by
  intro t
  have hleap : t.isLeap = false := by decide
  exact ⟨hleap, by decide +kernel, ifMissing_faithful.2.2.2.2 t hleap⟩

end WideColumn
