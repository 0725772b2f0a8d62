import WideColumn.Text.Numeral

/-! # Internet addresses
Addresses of 32 bits and of 128 bits, and their canonical text: in a long address the longest run of
at least two zero groups, the first of equally long ones, is written as two colons. -/

namespace WideColumn

/-- An internet address. -/
inductive Address
  /-- An address of four bytes. -/
  | v4 (a b c d : UInt8)
  /-- An address of eight groups of sixteen bits. -/
  | v6 (groups : List UInt16) (size_eq : groups.length = 8)
  deriving DecidableEq

namespace Address

/-- Four bytes in decimal, divided by points. -/
def dotted (a b c d : UInt8) : List Char :=
  Text.numeral a.toNat ++ '.' :: Text.numeral b.toNat ++ '.' :: Text.numeral c.toNat ++
    '.' :: Text.numeral d.toNat

/-- Groups in hexadecimal, divided by colons. -/
def colonated (groups : List UInt16) : List Char :=
  [':'].intercalate (groups.map fun g => Nat.toDigits 16 g.toNat)

/-- Start and length of the longest run of zero groups, the first of equally long ones. -/
def zeroRun : List UInt16 → Nat × Nat
  | [] => (0, 0)
  | g :: rest =>
    let here := ((g :: rest).takeWhile (· == 0)).length
    let (start, length) := zeroRun rest
    if length ≤ here then (0, here) else (start + 1, length)

/-- The text of a long address. -/
def grouped (groups : List UInt16) : List Char :=
  let (start, length) := zeroRun groups
  if 2 ≤ length then
    colonated (groups.take start) ++ [':', ':'] ++ colonated (groups.drop (start + length))
  else colonated groups

/-- The upper and the lower byte of a group. -/
def groupBytes (g : UInt16) : UInt8 × UInt8 := (UInt8.ofNat (g.toNat / 256), UInt8.ofNat g.toNat)

/-- The canonical text of an address. A long address that stands for a short one shows it. -/
def toChars : Address → List Char
  | v4 a b c d => dotted a b c d
  | v6 groups _ =>
    match groups with
    | [0, 0, 0, 0, 0, 0xFFFF, g, h] =>
      "::ffff:".toList ++
        dotted (groupBytes g).1 (groupBytes g).2 (groupBytes h).1 (groupBytes h).2
    | groups => grouped groups

/-- The canonical text as a string. -/
def toText (a : Address) : String := String.ofList a.toChars

end Address

end WideColumn
