import WideColumn.Proofs.Conversion.TypeSoundness
import WideColumn.Proofs.Text.Words

/-! # Integers in text

Columns of integers take text, too. A column of words takes exactly the texts of integers that have
64 bits, and a column of integers of any size takes those of all integers; both store the integer
that the text is and nothing near it. What does not fit into a word is given back as its decimal
numeral, which is such a text again. -/

namespace WideColumn.Conversion

open Integer (Canonical Fits Written)
open Text (TrimmedTo)

variable {s : String} {cs : List Char} {n : Int}

theorem trimmed_eq_of_trimmedTo (h : TrimmedTo s.toList cs) : trimmed s = cs :=
  Text.trimmedTo_iff.mp h

/-- A column of words takes the text of a word, and no other text. -/
theorem toBigint_text_iff {cell : Cell} :
    toBigint (.text s) = .ok cell ↔
      ∃ w : Int64, cell = .bigint w ∧ ∃ cs, TrimmedTo s.toList cs ∧ Written w.toInt cs := by
  have htrim : TrimmedTo s.toList (trimmed s) := Text.trimmedTo_iff.mpr rfl
  rw [toBigint]
  constructor
  · intro h
    cases hread : Integer.readInt64 (trimmed s) with
    | error fault =>
      rw [hread] at h
      cases h
    | ok w =>
      rw [hread] at h
      cases h
      exact ⟨w, rfl, trimmed s, htrim, Integer.readInt64_eq_ok_iff.mp hread⟩
  · rintro ⟨w, rfl, cs, hcs, h⟩
    rw [trimmed_eq_of_trimmedTo hcs, Integer.readInt64_eq_ok_iff.mpr h]
    rfl

theorem toVarint_of_written (htrim : TrimmedTo s.toList cs) (h : Written n cs) :
    toVarint (.text s) = .ok (.varint n) := by
  rw [toVarint, trimmed_eq_of_trimmedTo htrim, Integer.readInt_of_written h]
  rfl

/-- Integers of 64 bits are given back as they are. -/
theorem toNative_varint_iff {w : Int64} : (Cell.varint n).toNative = .int w ↔ w.toInt = n := by
  rw [Cell.toNative, ← Integer.toInt64?_eq_some]
  cases Integer.toInt64? n with
  | none => simp
  | some small => simp

/-- Any other integer is given back as its numeral. -/
theorem toNative_varint_of_not_fits (h : ¬Fits n) :
    (Cell.varint n).toNative = .text (Text.ofInt n) := by
  have hnone : Integer.toInt64? n = none := if_neg h
  rw [Cell.toNative, hnone]

/-- Whether text is stored as the integer that it is, and as nothing else. -/
structure ReadsIntegers (convert : ColumnType → Value → Except Error Cell) : Prop where
  /-- Columns of words take the integers that have 64 bits. -/
  bigint_iff : ∀ s : String, (∃ cell, convert .bigint (.text s) = .ok cell) ↔
    ∃ n cs, TrimmedTo s.toList cs ∧ Written n cs ∧ Fits n
  bigint : ∀ (s : String) (n : Int) (cs : List Char), TrimmedTo s.toList cs → Written n cs →
    Fits n → ∃ w : Int64, w.toInt = n ∧ convert .bigint (.text s) = .ok (.bigint w) ∧
      (Cell.bigint w).toNative = .int w
  /-- The other columns of integers take all of them. -/
  varint : ∀ (s : String) (n : Int) (cs : List Char), TrimmedTo s.toList cs → Written n cs →
    convert .varint (.text s) = .ok (.varint n)
  /-- They give them back as integers where these have 64 bits. -/
  native_iff : ∀ n : Int, (∃ w : Int64, (Cell.varint n).toNative = .int w) ↔ Fits n
  native_int : ∀ (n : Int) (w : Int64), (Cell.varint n).toNative = .int w → w.toInt = n
  /-- Elsewhere they give back numerals, which stand for the same integers. -/
  native_text : ∀ n : Int, ¬Fits n → ∃ text : String, (Cell.varint n).toNative = .text text ∧
    Canonical n text.toList ∧ convert .varint (.text text) = .ok (.varint n)

/-- **Integer text is read exactly,** in every column and under every policy. -/
theorem reads_integers (policy : UuidPolicy) (mint : Mint) (column : String) :
    ReadsIntegers (convertTyped policy mint column) := by
  constructor
  case bigint_iff =>
    intro s
    constructor
    · rintro ⟨cell, h⟩
      have hcell := toCell_of_convertTyped h
      rw [toCell_bigint_text, toBigint_text_iff] at hcell
      obtain ⟨w, -, cs, htrim, hwritten⟩ := hcell
      exact ⟨w.toInt, cs, htrim, hwritten, Integer.fits_toInt w⟩
    · rintro ⟨n, cs, htrim, hwritten, hfits⟩
      obtain ⟨w, rfl⟩ := Integer.exists_toInt_eq hfits
      refine ⟨.bigint w, convertTyped_of_ok ?_ column⟩
      rw [toCell_bigint_text, toBigint_text_iff]
      exact ⟨w, rfl, cs, htrim, hwritten⟩
  case bigint =>
    intro s n cs htrim hwritten hfits
    obtain ⟨w, rfl⟩ := Integer.exists_toInt_eq hfits
    refine ⟨w, rfl, convertTyped_of_ok ?_ column, rfl⟩
    rw [toCell_bigint_text, toBigint_text_iff]
    exact ⟨w, rfl, cs, htrim, hwritten⟩
  case varint =>
    intro s n cs htrim hwritten
    refine convertTyped_of_ok ?_ column
    rw [toCell_varint_text]
    exact toVarint_of_written htrim hwritten
  case native_iff =>
    intro n
    constructor
    · rintro ⟨w, h⟩
      rw [← toNative_varint_iff.mp h]
      exact Integer.fits_toInt w
    · intro hfits
      obtain ⟨w, hw⟩ := Integer.exists_toInt_eq hfits
      exact ⟨w, toNative_varint_iff.mpr hw⟩
  case native_int =>
    intro n w
    exact toNative_varint_iff.mp
  case native_text =>
    intro n hfits
    have hnative := toNative_varint_of_not_fits hfits
    have hback := toVarint_toNative n
    rw [hnative] at hback
    refine ⟨Text.ofInt n, hnative, ?_, convertTyped_of_ok ?_ column⟩
    · rw [Text.ofInt, String.toList_ofList]
      exact Integer.canonical_signedNumeral n
    · rw [toCell_varint_text, hback]

/-- The least word has texts with zeros in front, and the integer before it is no word. -/
example : toBigint (.text " -009223372036854775808\n") = .ok (.bigint (-9223372036854775808)) ∧
    toVarint (.text "-9223372036854775809") = .ok (.varint (-9223372036854775809)) := by
  constructor <;> rfl

end WideColumn.Conversion
