import WideColumn.Binary.Bits
import WideColumn.Text.Numeral

/-! # Shortest decimal digits
The fewest decimal digits that single out a floating-point number among its neighbours: of all
decimals that round to the number, one with the least number of digits, and of those the nearest. -/

namespace WideColumn.Binary

/-- Which of two equally near decimals is taken. -/
inductive Tie
  /-- The larger one. -/
  | up
  /-- The one whose last digit is even. -/
  | even
  deriving DecidableEq

/-- The decimals that round to a number, as an interval in quarters of its last binary place. -/
structure Neighbourhood where
  /-- The number in quarters. -/
  centre : Nat
  /-- The lower end in quarters. -/
  low : Nat
  /-- The upper end in quarters. -/
  high : Nat
  /-- The exponent of two of a quarter. -/
  unit : Int
  /-- Whether the two ends themselves round to the number. -/
  closed : Bool

/-- The neighbourhood of `magnitude · 2 ^ exponent`. Half a place reaches to either side, but only a
quarter downwards from a power of two, where the places below are half as wide. -/
def Format.neighbourhood (f : Format) (magnitude : Nat) (exponent : Int) : Neighbourhood :=
  let parts := f.significand magnitude exponent
  let narrowBelow := parts.1 = f.fractionBound ∧ f.least < parts.2
  { centre := 4 * parts.1
    low := 4 * parts.1 - (if narrowBelow then 1 else 2)
    high := 4 * parts.1 + 2
    unit := parts.2 - 2
    closed := parts.1 % 2 = 0 }

/-- A decimal `digits · 10 ^ exponent`. -/
structure Digits where
  /-- The digits as one number. -/
  digits : Nat
  /-- The exponent of ten. -/
  exponent : Int
  deriving DecidableEq

namespace Digits

/-- Without the zeros at the end of the digits, as far as `fuel` reaches. -/
def strip : Nat → Digits → Digits
  | 0, x => x
  | fuel + 1, x =>
    if x.digits ≠ 0 ∧ x.digits % 10 = 0 then strip fuel ⟨x.digits / 10, x.exponent + 1⟩ else x

/-- The exponent of the first digit. -/
def leading (x : Digits) : Int := x.exponent + ((Text.numeral x.digits).length - 1 : Nat)

end Digits

/-- The exponent `k` with `10 ^ k ≤ n / d < 10 ^ (k + 1)`, for a positive fraction. -/
def fractionLog10 (n d : Nat) : Int :=
  if d ≤ n then ((Text.numeral (n / d)).length : Int) - 1
  else
    let k := (Text.numeral (d / n)).length
    if d ≤ n * Nat.pow 10 (k - 1) then 1 - (k : Int) else -(k : Int)

/-- The decimal with `count` digits nearest to a number, if it lies in the neighbourhood. -/
def Neighbourhood.candidate (h : Neighbourhood) (tie : Tie) (leading : Int) (count : Nat) :
    Option Digits :=
  -- Everything is measured in a common unit, in which a quarter is `quarter` and a step of the
  -- decimal grid is `step`.
  let exponent := leading - (count - 1 : Nat)
  let quarter := Nat.pow 2 h.unit.toNat * Nat.pow 10 (-exponent).toNat
  let step := Nat.pow 2 (-h.unit).toNat * Nat.pow 10 exponent.toNat
  let below := h.centre * quarter / step
  let remainder := h.centre * quarter % step
  let inside (x : Nat) : Bool :=
    if h.closed then h.low * quarter ≤ x * step ∧ x * step ≤ h.high * quarter
    else h.low * quarter < x * step ∧ x * step < h.high * quarter
  let upFirst :=
    2 * remainder > step ∨ (2 * remainder = step ∧ (tie = .up ∨ below % 2 = 1))
  let order := if upFirst then [below + 1, below] else [below, below + 1]
  (order.find? inside).map fun x => ⟨x, exponent⟩

/-- The shortest decimal of `magnitude · 2 ^ exponent`: the least count of digits for which the
decimal grid meets the neighbourhood. Seventeen digits are always enough for the formats here. -/
def Format.shortest (f : Format) (tie : Tie) (magnitude : Nat) (exponent : Int) : Digits :=
  let h := f.neighbourhood magnitude exponent
  let fraction := scaleFraction h.centre 1 h.unit
  let leading := fractionLog10 fraction.1 fraction.2
  let found := (List.range 17).findSome? fun i => h.candidate tie leading (i + 1)
  (found.getD ⟨0, 0⟩).strip 17

end WideColumn.Binary
