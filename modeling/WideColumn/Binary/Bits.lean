import WideColumn.Binary.Number
import WideColumn.Text.Hex

/-! # Interchange form of floating-point numbers
A number as the bits of its interchange form: sign, biased exponent, fraction. -/

namespace WideColumn.Binary

/-- The number of bits of the fraction field. -/
def Format.fractionBits (f : Format) : Nat := f.precision - 1

/-- Every fraction field is below this number. -/
def Format.fractionBound (f : Format) : Nat := Nat.pow 2 f.fractionBits

/-- The value of an exponent field of ones alone. -/
def Format.fullExponent (f : Format) : Nat := 2 * f.bound.toNat - 1

/-- The value of the sign bit. -/
def Format.signBit (f : Format) : Nat := 2 * f.bound.toNat * f.fractionBound

/-- A magnitude as a significand of full length and an exponent, or, next to zero, as a shorter
significand and the least exponent. -/
def Format.significand (f : Format) (magnitude : Nat) (exponent : Int) : Nat × Int :=
  let unit := max f.least (magnitude.log2 + exponent - f.fractionBits)
  (magnitude * Nat.pow 2 (exponent - unit).toNat, unit)

namespace Number

variable {f : Format}

/-- The bits of a number; not-a-number has the first bit of its fraction set. -/
def toBits : Number f → Nat
  | nan => f.fullExponent * f.fractionBound + Nat.pow 2 (f.fractionBits - 1)
  | infinite negative => (if negative then f.signBit else 0) + f.fullExponent * f.fractionBound
  | zero negative => if negative then f.signBit else 0
  | finite (.ofOdd n k _) _ =>
    let parts := f.significand n.natAbs (-k)
    (if n < 0 then f.signBit else 0) + (parts.2 - f.least).toNat * f.fractionBound + parts.1

/-- The number that bits stand for. -/
def ofBits (f : Format) (bits : Nat) : Number f :=
  let negative := decide (f.signBit ≤ bits)
  let rest := bits % f.signBit
  let exponent := rest / f.fractionBound
  let fraction := rest % f.fractionBound
  if exponent = f.fullExponent then if fraction = 0 then infinite negative else nan
  else
    let magnitude : Int := if exponent = 0 then fraction else fraction + f.fractionBound
    let unit : Int := f.least + (exponent - 1 : Nat)
    if magnitude = 0 then zero negative
    else ofDyadic f (.ofIntWithPrec (if negative then -magnitude else magnitude) (-unit))

/-- The bits of a number in hexadecimal, of fixed width. -/
def toHex (x : Number f) : String :=
  String.ofList (Text.hexPadded ((f.signBit.log2 + 1) / 4) x.toBits)

end Number

end WideColumn.Binary
