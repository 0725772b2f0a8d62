import WideColumn.Binary.Arithmetic
import WideColumn.Binary.Bits
import WideColumn.Decimal.Basic

/-! # Decimals and floating-point numbers
The decimal that stands for a double-precision number, and the double-precision number that stands
for a decimal. Both ways work in limited precision: a decimal of a double has about sixteen digits.
-/

namespace WideColumn.Decimal

open Binary (Double Number)

/-- Turns `m / 2 ^ count · 10 ^ exponent` into a whole significand and a power of ten, one factor of
two at a time: an even significand is halved, an odd one multiplied by five against a tenth. Once 96
bits would not hold the product, the last bit is dropped. -/
def halve : (count m : Nat) → (exponent : Int) → Nat × Int
  | 0, m, exponent => (m, exponent)
  | count + 1, m, exponent =>
    if m % 2 = 0 then halve count (m / 2) exponent
    else if 5 * m < mantissaBound then halve count (5 * m) (exponent - 1)
    else halve count (m / 2) exponent

/-- Drops digits one by one, a half of the dropped digit upwards. A significand that is used up
leaves zero without places. -/
def dropPlaces : (count m : Nat) → (exponent : Int) → Nat × Int
  | 0, m, exponent => (m, exponent)
  | count + 1, m, exponent =>
    if m / 10 = 0 then (0, 0)
    else dropPlaces count (if 5 ≤ m % 10 then m / 10 + 1 else m / 10) (exponent + 1)

/-- Drops places as long as the significand needs more than 52 bits, a half upwards. -/
def dropExcess : (places m : Nat) → Nat × Nat
  | 0, m => (m, 0)
  | places + 1, m =>
    if Nat.pow 2 52 ≤ m then dropExcess places (if 5 ≤ m % 10 then m / 10 + 1 else m / 10)
    else (m, places + 1)

/-- Drops the zeros at the end of the places. -/
def dropZeros : (places m : Nat) → Nat × Nat
  | 0, m => (m, 0)
  | places + 1, m => if m % 10 = 0 then dropZeros places (m / 10) else (m, places + 1)

/-- The decimal for a double-precision number. Infinities, not-a-number and numbers from `2 ^ 96` on
have none. -/
def ofDouble? : Double → Option Decimal
  | .nan | .infinite _ => none
  | .zero negative => some { zero with negative := negative }
  | .finite (.ofOdd n k _) _ =>
    let negative := decide (n < 0)
    if k ≤ 0 then ofParts? negative (n.natAbs * Nat.pow 2 (-k).toNat) 0
    else
      let (m, exponent) := halve k.toNat n.natAbs 0
      let (m, exponent) := dropPlaces (-28 - exponent).toNat m exponent
      let (m, places) := dropExcess (-exponent).toNat m
      let (m, places) := dropZeros places m
      ofParts? negative m places

/-- The double-precision number for a decimal. Whole part and places are rounded on their own,
added, and the sum is rounded to the decimal's places again. -/
def toDouble (x : Decimal) : Double :=
  let number (n : Nat) : Double := .ofInt Binary.double n
  let whole := x.mantissa / Nat.pow 10 x.scale
  let places := x.mantissa % Nat.pow 10 x.scale
  let signed (y : Double) : Double := if x.negative then y.neg else y
  if x.scale = 0 then .ofInt Binary.double (if x.negative then -(whole : Int) else whole)
  else if places = 0 then signed (number whole)
  else
    let sum := (number whole).add ((number places).div (number (Nat.pow 10 x.scale)))
    let unit := (number 10).pow x.scale
    signed ((sum.mul unit).round.div unit)

end WideColumn.Decimal
