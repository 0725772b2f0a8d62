import WideColumn.Conversion.Basic

/-! # Configuration
The settings of a client. -/

namespace WideColumn

/-- The settings of a client. -/
structure Config where
  /-- Whether returned cells are turned into native values. -/
  autoConvert : Bool := true
  /-- What happens to values written to columns of identifiers. -/
  uuidWrites : UuidPolicy := .generate
  /-- Whether prepared statements are kept. -/
  cacheEnabled : Bool := true
  /-- How many prepared statements are kept. -/
  cacheCapacity : Nat := 64
  /-- How many bytes of a statement go into the log; without a bound all do. -/
  logLimit : Option Nat := some 200
  deriving DecidableEq

namespace Config

/-- The settings with identifiers kept as they are given. -/
def honorUuids (c : Config) : Config := { c with uuidWrites := .honor }

/-- The settings with room for a number of prepared statements. -/
def withStatementCache (c : Config) (capacity : Nat) : Config :=
  { c with cacheEnabled := true, cacheCapacity := capacity }

/-- The settings without prepared statements being kept. -/
def withoutStatementCache (c : Config) : Config := { c with cacheEnabled := false }

end Config

end WideColumn
