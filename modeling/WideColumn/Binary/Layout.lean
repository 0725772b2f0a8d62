import WideColumn.Binary.Shortest

/-! # Layouts of floating-point text
How the shortest digits of a number are written: with a point in its place, or with an exponent. -/

namespace WideColumn.Binary

/-- The decisions of a written form. -/
structure Layout where
  /-- Which of two equally near decimals is taken. -/
  tie : Tie
  /-- The exponents of the first digit that are written with an exponent. -/
  scientific : Int → Bool
  /-- Whether a whole number gets a point and a zero. -/
  pointed : Bool
  /-- Whether a positive exponent gets a plus sign. -/
  signedExponent : Bool

/-- The form of messages and literals: never an exponent, no point in a whole number. -/
def plainLayout : Layout := ⟨.up, fun _ => false, false, false⟩

/-- The form of diagnostic text: an exponent from `1e16` on and below `1e-4`. -/
def diagnosticLayout : Layout := ⟨.up, fun k => decide (k < -4) || decide (16 ≤ k), true, false⟩

/-- The form of JSON text: an exponent from `1e+16` on and below `1e-5`. -/
def jsonLayout : Layout := ⟨.even, fun k => decide (k < -5) || decide (16 ≤ k), true, true⟩

namespace Layout

/-- A decimal with its point in its place. -/
def positional (layout : Layout) (x : Digits) : List Char :=
  let digits := Text.numeral x.digits
  if 0 ≤ x.exponent then
    digits ++ List.replicate x.exponent.toNat '0' ++ if layout.pointed then ['.', '0'] else []
  else
    let places := (-x.exponent).toNat
    let padded := List.replicate (places + 1 - digits.length) '0' ++ digits
    padded.take (padded.length - places) ++ '.' :: padded.drop (padded.length - places)

/-- A decimal with a point after its first digit and an exponent. -/
def withExponent (layout : Layout) (x : Digits) : List Char :=
  let digits := Text.numeral x.digits
  let point := if digits.length = 1 then [] else ['.']
  let plus := if layout.signedExponent ∧ 0 ≤ x.leading then ['+'] else []
  digits.take 1 ++ point ++ digits.drop 1 ++ 'e' :: plus ++ Text.signedNumeral x.leading

/-- A decimal in the form that its size asks for. -/
def digits (layout : Layout) (x : Digits) : List Char :=
  if layout.scientific x.leading then layout.withExponent x else layout.positional x

/-- The written form of a number. -/
def write (layout : Layout) {f : Format} : Number f → String
  | .nan => "NaN"
  | .infinite negative => if negative then "-inf" else "inf"
  | .zero negative =>
    String.ofList ((if negative then ['-'] else []) ++ layout.positional ⟨0, 0⟩)
  | .finite (.ofOdd n k _) _ =>
    let sign := if n < 0 then ['-'] else []
    String.ofList (sign ++ layout.digits (f.shortest layout.tie n.natAbs (-k)))

end Layout

end WideColumn.Binary
