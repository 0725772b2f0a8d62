/-! # Binary floating-point numbers
The numbers of a binary floating-point format: one not-a-number, two infinities, two zeros, and the
finite numbers, each held as the dyadic rational that it is. A number therefore has one form only,
and a number of a narrow format is a number of every wider one as it stands. -/

namespace WideColumn.Binary

/-- The extent of a floating-point format. -/
structure Format where
  /-- The number of binary digits of a significand. -/
  precision : Nat
  /-- The exponent of the least positive number. -/
  least : Int
  /-- Every finite number is below two to this power. -/
  bound : Int

/-- The format of 64 bits, which `double` columns hold. -/
def double : Format := ⟨53, -1074, 1024⟩

/-- The format of 32 bits, which `float` columns hold. -/
def single : Format := ⟨24, -149, 128⟩

/-- The dyadic rationals that a format has as finite numbers other than zero. -/
def Format.Holds (f : Format) : Dyadic → Prop
  | .zero => False
  | .ofOdd n k _ =>
    n.natAbs < Nat.pow 2 f.precision ∧ f.least ≤ -k ∧ (n.natAbs.log2 : Int) - k < f.bound

instance (f : Format) : DecidablePred f.Holds
  | .zero => inferInstanceAs (Decidable False)
  | .ofOdd n k _ => inferInstanceAs
      (Decidable
        (n.natAbs < Nat.pow 2 f.precision ∧ f.least ≤ -k ∧ (n.natAbs.log2 : Int) - k < f.bound))

/-- A number of a format. -/
inductive Number (f : Format)
  /-- The result of an operation that has no number as its result. -/
  | nan
  /-- An infinity. -/
  | infinite (negative : Bool)
  /-- A zero, which keeps its sign. -/
  | zero (negative : Bool)
  /-- A finite number other than zero. -/
  | finite (value : Dyadic) (holds : f.Holds value)
  deriving DecidableEq

/-- A number of 64 bits. -/
abbrev Double := Number double

/-- A number of 32 bits. -/
abbrev Single := Number single

namespace Number

variable {f : Format}

instance : Inhabited (Number f) := ⟨zero false⟩

/-- Whether a number is finite: a zero or a finite number. -/
def isFinite : Number f → Bool
  | zero _ | finite _ _ => true
  | nan | infinite _ => false

/-- Whether a number is an infinity. -/
def isInfinite : Number f → Bool
  | infinite _ => true
  | _ => false

/-- The number with the other sign. -/
def neg : Number f → Number f
  | nan => nan
  | infinite negative => infinite !negative
  | zero negative => zero !negative
  | finite (.ofOdd n k odd) holds =>
    finite (.ofOdd (-n) k (by omega)) (by simpa only [Format.Holds, Int.natAbs_neg] using holds)

end Number

/-- The fraction `n / d` rounded to a whole number, a half to the even neighbour. -/
def divNearest (n d : Nat) : Nat :=
  let q := n / d
  let r := n % d
  if 2 * r < d ∨ (2 * r = d ∧ q % 2 = 0) then q else q + 1

/-- The fraction `n / d` scaled by a power of two, as a fraction again. -/
def scaleFraction (n d : Nat) (k : Int) : Nat × Nat :=
  if 0 ≤ k then (n * Nat.pow 2 k.toNat, d) else (n, d * Nat.pow 2 (-k).toNat)

/-- The exponent `k` with `2 ^ k ≤ n / d < 2 ^ (k + 1)`, for a positive fraction. -/
def fractionLog2 (n d : Nat) : Int :=
  let k : Int := (n.log2 : Int) - d.log2
  let scaled := scaleFraction n d (-k)
  if scaled.2 ≤ scaled.1 then k else k - 1

namespace Number

variable {f : Format}

/-- The number nearest to the fraction `n / d` or its negative, a half going to the even
significand. Beyond the largest number of the format lies infinity. -/
def nearest (f : Format) (negative : Bool) (n d : Nat) : Number f :=
  if n = 0 then zero negative
  else
    let unit := max f.least (fractionLog2 n d - (f.precision - 1))
    let scaled := scaleFraction n d (-unit)
    let significand : Int := divNearest scaled.1 scaled.2
    if significand = 0 then zero negative
    else
      let value := Dyadic.ofIntWithPrec (if negative then -significand else significand) (-unit)
      if holds : f.Holds value then finite value holds else infinite negative

/-- The number nearest to a dyadic rational: the rational itself wherever the format has it. -/
def ofDyadic (f : Format) (value : Dyadic) : Number f :=
  if holds : f.Holds value then finite value holds
  else
    let q := value.toRat
    nearest f (q.num < 0) q.num.natAbs q.den

/-- The number nearest to an integer. -/
def ofInt (f : Format) (n : Int) : Number f := ofDyadic f (Dyadic.ofInt n)

/-- The nearest number of another format. -/
def convert (g : Format) : Number f → Number g
  | nan => nan
  | infinite negative => infinite negative
  | zero negative => zero negative
  | finite value _ => ofDyadic g value

/-- A single-precision number as a double-precision one. -/
def widen (x : Single) : Double := x.convert double

/-- The single-precision number nearest to a double-precision one. -/
def narrow (x : Double) : Single := x.convert single

end Number

end WideColumn.Binary
