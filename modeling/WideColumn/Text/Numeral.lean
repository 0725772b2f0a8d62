/-! # Decimal numerals
Whole numbers written with the ten ASCII digits. -/

namespace WideColumn.Text

/-- The numeral of a natural number: its decimal digits, without leading zeros. -/
def numeral (n : Nat) : List Char := Nat.toDigits 10 n

/-- The numeral of an integer: a minus sign in front of a negative one. -/
def signedNumeral (n : Int) : List Char :=
  if n < 0 then '-' :: numeral n.natAbs else numeral n.natAbs

/-- The numeral of a natural number with leading zeros up to `width` digits. -/
def paddedNumeral (width n : Nat) : List Char :=
  List.replicate (width - (numeral n).length) '0' ++ numeral n

/-- The value of an ASCII digit. -/
def digitValue? (c : Char) : Option Nat :=
  if '0' ≤ c ∧ c ≤ '9' then some (c.toNat - '0'.toNat) else none

/-- The number that decimal digits denote, most significant first. -/
def digitsValue (digits : List Char) : Nat := Nat.ofDigitChars 10 digits 0

/-- The numeral of a natural number as a string. -/
def ofNat (n : Nat) : String := String.ofList (numeral n)

/-- The numeral of an integer as a string. -/
def ofInt (n : Int) : String := String.ofList (signedNumeral n)

end WideColumn.Text
