import WideColumn.Address.Basic
import WideColumn.Text.Hex
import WideColumn.Text.Reader

/-! # Address text
Reading an internet address: four decimal bytes without leading zeros, or eight hexadecimal groups,
of which a run may be left out as two colons and the last two may be written as four decimal bytes.
-/

namespace WideColumn.Address

open Text (Reader)
open Text.Reader (char)

/-- Takes a decimal byte: one to three digits without a leading zero. -/
def byte : Reader UInt8 := fun cs =>
  let digits := cs.takeWhile Char.isDigit
  let value := Text.digitsValue digits
  let plain : Bool := digits.length = 1 ∨ (digits.length ≤ 3 ∧ digits.head? ≠ some '0')
  if digits ≠ [] ∧ plain ∧ value < 256 then some (UInt8.ofNat value, cs.drop digits.length)
  else none

/-- Takes four bytes divided by points. -/
def fourBytes : Reader (UInt8 × UInt8 × UInt8 × UInt8) := do
  let a ← byte
  char '.'
  let b ← byte
  char '.'
  let c ← byte
  char '.'
  let d ← byte
  return (a, b, c, d)

/-- Takes a hexadecimal group: one to four digits. -/
def group : Reader UInt16 := fun cs =>
  let digits := cs.takeWhile fun c => (Text.hexValue? c).isSome
  if digits ≠ [] ∧ digits.length ≤ 4 then
    (Text.hexNumber? digits).map fun value => (UInt16.ofNat value, cs.drop digits.length)
  else none

/-- The group of two bytes. -/
def joinBytes (a b : UInt8) : UInt16 := UInt16.ofNat (256 * a.toNat + b.toNat)

/-- Takes up to `limit` groups divided by colons, as many as there are; four decimal bytes count as
the last two. Gives the groups, the rest of the text, and whether decimal bytes ended them. -/
def groups : (limit : Nat) → (first : Bool) → List Char → List UInt16 × List Char × Bool
  | 0, _, cs => ([], cs, false)
  | limit + 1, first, cs =>
    match if first then some ((), cs) else char ':' cs with
    | none => ([], cs, false)
    | some (_, body) =>
      match if 1 ≤ limit then fourBytes body else none with
      | some ((a, b, c, d), rest) => ([joinBytes a b, joinBytes c d], rest, true)
      | none =>
        match group body with
        | none => ([], cs, false)
        | some (g, rest) =>
          let (following, rest, decimal) := groups limit false rest
          (g :: following, rest, decimal)

/-- Takes a long address. -/
def long : Reader Address := fun cs =>
  let (front, rest, decimal) := groups 8 true cs
  if full : front.length = 8 then some (v6 front full, rest)
  else if decimal then none
  else
    match rest with
    | ':' :: ':' :: rest =>
      let (back, rest, _) := groups (7 - front.length) true rest
      let all := front ++ List.replicate (8 - front.length - back.length) 0 ++ back
      if full : all.length = 8 then some (v6 all full, rest) else none
    | _ => none

/-- Takes a short address. -/
def short : Reader Address := do
  let (a, b, c, d) ← fourBytes
  return v4 a b c d

/-- The address that a text denotes. -/
def read? (cs : List Char) : Option Address := short.whole cs <|> long.whole cs

/-- The wording of the one fault that address text has. -/
def readFault : String := "invalid IP address syntax"

end WideColumn.Address
