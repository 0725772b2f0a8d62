import WideColumn.Decimal.Basic

/-! # Decimal text
Reading a decimal: an optional sign, digits with at most one point among them, and underscores
anywhere behind the first digit. Places that the significand cannot hold are rounded away, a half
upwards; too many digits in front of the point are a fault. The letter `e` may follow with an
exponent of ten, which moves the point. -/

namespace WideColumn.Decimal

/-- Why a text is no decimal. -/
inductive ReadFault
  /-- There is no text. -/
  | empty
  /-- There is no digit. -/
  | noDigits
  /-- A character has no place in a decimal. -/
  | unknownCharacter
  /-- There is a second point. -/
  | twoPoints
  /-- There is an underscore before the first digit. -/
  | underscoreFirst
  /-- The digits in front of the point exceed the significand. -/
  | tooManyDigits
  /-- The significand overflows when its last digit is rounded up. -/
  | roundingOverflow
  /-- What stands behind the letter `e` is no exponent. -/
  | malformedExponent
  /-- The exponent moves the point farther than a decimal has places. -/
  | tooManyPlaces (places : Nat)
  /-- The exponent makes the number exceed the significand. -/
  | tooLarge

/-- The wording of a fault. -/
def ReadFault.message : ReadFault → String
  | .empty => "Invalid decimal: empty"
  | .noDigits => "Invalid decimal: no digits found"
  | .unknownCharacter => "Invalid decimal: unknown character"
  | .twoPoints => "Invalid decimal: two decimal points"
  | .underscoreFirst => "Invalid decimal: must start lead with a number"
  | .tooManyDigits => "Invalid decimal: overflow from too many digits"
  | .roundingOverflow => "Invalid decimal: overflow from mantissa after rounding"
  | .malformedExponent => "Failed to parse"
  | .tooManyPlaces places =>
    "Scale exceeds the maximum precision allowed: " ++ Text.ofNat places ++ " > 28"
  | .tooLarge => "Number exceeds maximum value that can be represented."

/-- The fault of a character that cannot stand where it does. -/
def ReadFault.ofChar (c : Char) : ReadFault :=
  if c = '.' then .twoPoints else if c = '_' then .underscoreFirst else .unknownCharacter

/-- A decimal with one more digit, behind the point or in front of it, if the significand and the
scale hold it. -/
def append? (x : Decimal) (behindPoint : Bool) (digit : Nat) : Option Decimal :=
  let scale := if behindPoint then x.scale + 1 else x.scale
  if fits : 10 * x.mantissa + digit < mantissaBound ∧ scale ≤ 28 then
    some { x with
      mantissa := 10 * x.mantissa + digit, scale := scale
      mantissa_lt := fits.1, scale_le := fits.2 }
  else none

/-- A decimal with its last digit raised by one. Where the significand overflows, the last place is
given up, and without places the result does not exist. -/
def roundUp? (x : Decimal) : Option Decimal :=
  if fits : x.mantissa + 1 < mantissaBound then
    some { x with mantissa := x.mantissa + 1, mantissa_lt := fits }
  else if x.scale = 0 then none
  else
    some { x with
      mantissa := (x.mantissa + 5) / 10, scale := x.scale - 1
      mantissa_lt := Nat.lt_of_le_of_lt (by omega) x.mantissa_lt
      scale_le := by have := x.scale_le; omega }

/-- A decimal with the sign that was read; zero has none. -/
def signed (negative : Bool) (x : Decimal) : Decimal :=
  { x with negative := negative && x.mantissa != 0 }

/-- The first character, if any, that cannot stand among digits behind the point. -/
def strayCharacter? (cs : List Char) : Option Char :=
  cs.find? fun c => !c.isDigit && c != '_'

/-- Drops the places that do not fit: the first of them decides the rounding. -/
def finish (x : Decimal) (dropped : Nat) (rest : List Char) : Except ReadFault Decimal :=
  match if 5 ≤ dropped then x.roundUp? else some x with
  | none => .error .roundingOverflow
  | some y =>
    match strayCharacter? rest with
    | some c => .error (.ofChar c)
    | none => .ok y

/-- Whether a decimal has all its places and few digits: those before the last one stay clear of
what 64 bits hold. -/
def isFullAndShort (x : Decimal) : Bool :=
  x.scale == 28 && decide (x.mantissa / 10 < Nat.pow 2 64 / 10 - 255)

/-- Reads the rest of a decimal. `behindPoint` says whether the point has been read and `started`
whether a digit has. An underscore is passed over, but behind the last place of a short decimal it
stands for a dropped zero, so that no digit behind it rounds the decimal. -/
def readRest (behindPoint started : Bool) (x : Decimal) : List Char → Except ReadFault Decimal
  | [] => if started then .ok x else .error .noDigits
  | c :: rest =>
    match Text.digitValue? c with
    | some digit =>
      match x.append? behindPoint digit with
      | some y => readRest behindPoint true y rest
      | none => if behindPoint then finish x digit rest else .error .tooManyDigits
    | none =>
      if c = '.' ∧ !behindPoint then readRest true started x rest
      else if c = '_' ∧ started then
        if x.isFullAndShort then finish x 0 rest else readRest behindPoint started x rest
      else .error (.ofChar c)

/-- Reads a decimal without an exponent. -/
def readPlain : List Char → Except ReadFault Decimal
  | [] => .error .empty
  | '-' :: rest => (readRest false false zero rest).map (signed true)
  | '+' :: rest => (readRest false false zero rest).map (signed false)
  | cs => (readRest false false zero cs).map (signed false)

/-- A number without its last `count` digits, a half rounded up. -/
def roundOff (count number : Nat) : Nat :=
  (number + Nat.pow 10 count / 2) / Nat.pow 10 count

/-- Rounding digits off makes no number larger. -/
theorem roundOff_le (count number : Nat) : roundOff count number ≤ number := by
  have positive : 0 < Nat.pow 10 count := Nat.pow_pos (Nat.succ_pos 9)
  rw [roundOff]
  generalize Nat.pow 10 count = power at positive ⊢
  refine Nat.le_of_lt_succ ((Nat.div_lt_iff_lt_mul positive).2 ?_)
  have := Nat.le_mul_of_pos_right number positive
  rw [Nat.succ_mul]
  omega

/-- A decimal with its digits moved behind the point by a number of places. Digits that come to
stand behind the last place are rounded off; a number that becomes zero so keeps its sign. -/
def shiftDown (x : Decimal) (places : Nat) : Except ReadFault Decimal :=
  if 28 < places then .error (.tooManyPlaces places)
  else
    .ok { x with
      mantissa := roundOff (x.scale + places - 28) x.mantissa, scale := min (x.scale + places) 28
      mantissa_lt := Nat.lt_of_le_of_lt (roundOff_le _ _) x.mantissa_lt
      scale_le := Nat.min_le_right _ _ }

/-- A decimal with its digits moved in front of the point by a number of places. Places that the
decimal has are given up; beyond them zeros are added. -/
def shiftUp (x : Decimal) (places : Nat) : Except ReadFault Decimal :=
  if places ≤ x.scale then
    .ok { x with scale := x.scale - places, scale_le := by have := x.scale_le; omega }
  else if 28 < places then .error (.tooManyPlaces places)
  else
    match ofParts? x.negative (x.mantissa * Nat.pow 10 (places - x.scale)) 0 with
    | some y => .ok y
    | none => .error .tooLarge

/-- The number of places that an exponent has: digits for a number of 32 bits, behind an optional
plus sign. -/
def exponentPlaces (cs : List Char) : Except ReadFault Nat :=
  let digits := match cs with
    | '+' :: rest => rest
    | cs => cs
  if digits = [] ∨ !digits.all Char.isDigit ∨ 4294967296 ≤ Text.digitsValue digits then
    .error .malformedExponent
  else .ok (Text.digitsValue digits)

/-- A decimal whose point is moved by an exponent. -/
def shift (x : Decimal) : List Char → Except ReadFault Decimal
  | '-' :: rest => exponentPlaces rest >>= x.shiftDown
  | cs => exponentPlaces cs >>= x.shiftUp

/-- Whether a character divides a decimal from its exponent. -/
def isExponentMark (c : Char) : Bool := c == 'e' || c == 'E'

/-- The decimal that a text denotes. -/
def read (cs : List Char) : Except ReadFault Decimal := do
  let x ← readPlain (cs.takeWhile fun c => !isExponentMark c)
  match cs.dropWhile fun c => !isExponentMark c with
  | [] => return x
  | _ :: exponent => x.shift exponent

end WideColumn.Decimal
