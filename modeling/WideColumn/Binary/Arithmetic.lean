import WideColumn.Binary.Number

/-! # Floating-point arithmetic
Sums, products and quotients: the exact result rounded once. -/

namespace WideColumn.Binary.Number

variable {f : Format}

/-- Whether a number has a minus sign. -/
def isNegative : Number f → Bool
  | nan => false
  | infinite negative | zero negative => negative
  | finite (.ofOdd n _ _) _ => decide (n < 0)

/-- The sum of two numbers. -/
def add : Number f → Number f → Number f
  | nan, _ | _, nan => nan
  | infinite a, infinite b => if a = b then infinite a else nan
  | infinite a, _ | _, infinite a => infinite a
  | zero a, zero b => zero (a && b)
  | zero _, y => y
  | x, zero _ => x
  | finite v _, finite w _ => ofDyadic f (v + w)

/-- The product of two numbers. -/
def mul (x y : Number f) : Number f :=
  let negative := x.isNegative ^^ y.isNegative
  match x, y with
  | nan, _ | _, nan => nan
  | infinite _, zero _ | zero _, infinite _ => nan
  | infinite _, _ | _, infinite _ => infinite negative
  | zero _, _ | _, zero _ => zero negative
  | finite v _, finite w _ => ofDyadic f (v * w)

/-- The quotient of two numbers. -/
def div (x y : Number f) : Number f :=
  let negative := x.isNegative ^^ y.isNegative
  match x, y with
  | nan, _ | _, nan => nan
  | infinite _, infinite _ | zero _, zero _ => nan
  | infinite _, _ | _, zero _ => infinite negative
  | zero _, _ | _, infinite _ => zero negative
  | finite v _, finite w _ =>
    let q := v.toRat / w.toRat
    nearest f negative q.num.natAbs q.den

/-- The nearest whole number, a half going away from zero. -/
def round : Number f → Number f
  | finite value _ =>
    let q := value.toRat
    nearest f (decide (q.num < 0)) ((2 * q.num.natAbs + q.den) / (2 * q.den)) 1
  | x => x

/-- Powers by repeated squaring: the product of the squares that the binary digits of the exponent
select, from the least significant on. The first argument bounds the number of digits. -/
def powBySquaring : Nat → Number f → Number f → Nat → Number f
  | 0, result, _, _ => result
  | fuel + 1, result, base, exponent =>
    let result := if exponent % 2 = 1 then result.mul base else result
    if exponent / 2 = 0 then result
    else powBySquaring fuel result (base.mul base) (exponent / 2)

/-- A power with a natural exponent, rounded at every product. -/
def pow (base : Number f) (exponent : Nat) : Number f :=
  powBySquaring (exponent + 1) (ofInt f 1) base exponent

end WideColumn.Binary.Number
