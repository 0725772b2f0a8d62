import WideColumn.Text.Numeral

/-! # Decimals
Decimal numbers with a significand of 96 bits and up to twenty-eight places. A decimal keeps the
places it was written with, so `1.50` and `1.5` are two decimals. -/

namespace WideColumn

/-- Every significand of a decimal is below this number. -/
def Decimal.mantissaBound : Nat := Nat.pow 2 96

/-- A decimal number: `mantissa / 10 ^ scale` or its negative. -/
structure Decimal where
  /-- Whether the number has a minus sign. -/
  negative : Bool
  /-- All digits as one number. -/
  mantissa : Nat
  /-- The number of places behind the point. -/
  scale : Nat
  mantissa_lt : mantissa < Decimal.mantissaBound
  scale_le : scale ≤ 28
  deriving DecidableEq

namespace Decimal

/-- Zero, without places. -/
def zero : Decimal := ⟨false, 0, 0, by decide, by decide⟩

/-- The decimal of a significand and places, if they are within bounds. -/
def ofParts? (negative : Bool) (mantissa scale : Nat) : Option Decimal :=
  if fits : mantissa < mantissaBound ∧ scale ≤ 28 then
    some ⟨negative, mantissa, scale, fits.1, fits.2⟩
  else none

/-- A 64-bit integer as a decimal without places. -/
def ofInt64 (n : Int64) : Decimal :=
  ⟨decide (n.toInt < 0), n.toInt.natAbs, 0,
    by
      have := n.le_toInt
      have := n.toInt_lt
      exact Nat.lt_of_le_of_lt (by omega : _ ≤ 9223372036854775808) (by decide),
    by decide⟩

/-- The digits of a decimal, the point in its place. -/
def toText (x : Decimal) : String :=
  let digits := Text.paddedNumeral (x.scale + 1) x.mantissa
  let whole := digits.take (digits.length - x.scale)
  let places := digits.drop (digits.length - x.scale)
  String.ofList ((if x.negative then ['-'] else []) ++ whole ++
    if places = [] then [] else '.' :: places)

end Decimal

end WideColumn
