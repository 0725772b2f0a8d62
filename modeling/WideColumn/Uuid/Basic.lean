import WideColumn.Text.Hex

/-! # Universally unique identifiers
Identifiers of sixteen bytes, their hyphenated text and their version. -/

namespace WideColumn

/-- An identifier of sixteen bytes. -/
structure Uuid where
  bytes : List UInt8
  size_eq : bytes.length = 16
  deriving DecidableEq

namespace Uuid

/-- The version: the upper half of the seventh byte. -/
def version (u : Uuid) : Nat := (u.bytes.getD 6 0).toNat / 16

/-- The identifier of sixteen bytes; other counts have none. -/
def ofBytes? (bytes : List UInt8) : Option Uuid :=
  if h : bytes.length = 16 then some ⟨bytes, h⟩ else none

@[simp] theorem ofBytes?_bytes (u : Uuid) : ofBytes? u.bytes = some u := by
  simp [ofBytes?, u.size_eq]

/-- The lower-case text of an identifier, in five groups of 8, 4, 4, 4 and 12 digits. -/
def hyphenated (u : Uuid) : List Char :=
  Text.hex (u.bytes.take 4) ++ '-' :: Text.hex ((u.bytes.drop 4).take 2) ++
    '-' :: Text.hex ((u.bytes.drop 6).take 2) ++ '-' :: Text.hex ((u.bytes.drop 8).take 2) ++
    '-' :: Text.hex (u.bytes.drop 10)

/-- The hyphenated text as a string. -/
def toText (u : Uuid) : String := String.ofList u.hyphenated

end Uuid

/-- A fresh pair of identifiers to write into a row: a random one and a time-based one. -/
structure Mint where
  random : Uuid
  timeBased : Uuid
  random_version : random.version = 4
  timeBased_version : timeBased.version = 1

instance : Inhabited Mint where
  default :=
    { random := ⟨[0, 0, 0, 0, 0, 0, 64, 0, 0, 0, 0, 0, 0, 0, 0, 0], rfl⟩
      timeBased := ⟨[0, 0, 0, 0, 0, 0, 16, 0, 0, 0, 0, 0, 0, 0, 0, 0], rfl⟩
      random_version := rfl
      timeBased_version := rfl }

/-- A supply of fresh identifiers, in the order they are used up. -/
abbrev UuidSource := Nat → Mint

end WideColumn
