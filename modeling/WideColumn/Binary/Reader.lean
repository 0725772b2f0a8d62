import WideColumn.Binary.Number
import WideColumn.Text.Numeral

/-! # Floating-point text
Reading a double-precision number from text: an optional sign, then digits with an optional point
and exponent, or one of the words `inf`, `infinity` and `nan` in any letter case. The number is the
one nearest to the decimal. -/

namespace WideColumn.Binary

/-- Why a text is no floating-point number. -/
inductive ReadFault
  /-- There is no text. -/
  | empty
  /-- The text does not follow the grammar. -/
  | malformed

/-- The wording of a fault. -/
def ReadFault.message : ReadFault → String
  | .empty => "cannot parse float from empty string"
  | .malformed => "invalid float literal"

/-- The number nearest to `digits · 10 ^ exponent` or its negative. Powers of ten far outside of the
format's extent are settled by their size alone. -/
def Number.ofDecimal (negative : Bool) (digits : Nat) (exponent : Int) : Double :=
  let size : Int := (Text.numeral digits).length + exponent
  if digits = 0 then .zero negative
  else if 400 < size then .infinite negative
  else if size < -400 then .zero negative
  else nearest double negative (digits * Nat.pow 10 exponent.toNat) (Nat.pow 10 (-exponent).toNat)

/-- The exponent at the end of a number, zero where there is none. -/
def readExponent : List Char → Option Int
  | [] => some 0
  | e :: rest =>
    if e = 'e' ∨ e = 'E' then
      let (negative, digits) : Bool × List Char :=
        match rest with
        | '-' :: digits => (true, digits)
        | '+' :: digits => (false, digits)
        | digits => (false, digits)
      if digits ≠ [] ∧ digits.all Char.isDigit then
        let value : Int := Text.digitsValue digits
        some (if negative then -value else value)
      else none
    else none

/-- A number without its sign. -/
def readMagnitude (negative : Bool) (cs : List Char) : Option Double :=
  let whole := cs.takeWhile Char.isDigit
  let (places, rest) : List Char × List Char :=
    match cs.dropWhile Char.isDigit with
    | '.' :: rest => (rest.takeWhile Char.isDigit, rest.dropWhile Char.isDigit)
    | rest => ([], rest)
  if whole = [] ∧ places = [] then none
  else (readExponent rest).map fun exponent =>
    .ofDecimal negative (Text.digitsValue (whole ++ places)) (exponent - places.length)

/-- The words for numbers without digits. -/
def readWord (negative : Bool) (cs : List Char) : Option Double :=
  let word := cs.map Char.toLower
  if word = ['i', 'n', 'f'] ∨ word = ['i', 'n', 'f', 'i', 'n', 'i', 't', 'y'] then
    some (.infinite negative)
  else if word = ['n', 'a', 'n'] then some .nan
  else none

/-- The double-precision number that a text denotes. -/
def readDouble (cs : List Char) : Except ReadFault Double :=
  let (negative, rest) : Bool × List Char :=
    match cs with
    | '-' :: rest => (true, rest)
    | '+' :: rest => (false, rest)
    | rest => (false, rest)
  if cs = [] then .error .empty
  else
    match readMagnitude negative rest <|> readWord negative rest with
    | some x => .ok x
    | none => .error .malformed

end WideColumn.Binary
