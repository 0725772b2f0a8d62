import WideColumn.Calendar.Date
import WideColumn.Text.Numeral

/-! # Instants
Points of universal time to the nanosecond, from the year -262143 to the year 262142. A leap second
is the second sixty of a minute, held as a second billion of nanoseconds in its last second. -/

namespace WideColumn

open Calendar (Date)

/-- A point in time. -/
structure Instant where
  /-- Whole seconds since the start of 1970. -/
  seconds : Int
  /-- Nanoseconds in that second. -/
  nanos : Nat
  first_le : -8334601228800 ≤ seconds
  le_last : seconds ≤ 8210266876799
  nanos_lt : nanos < 1000000000 ∨ (nanos < 2000000000 ∧ seconds % 60 = 59)
  deriving DecidableEq

namespace Instant

/-- The instant of seconds and nanoseconds, where there is one. -/
def ofSeconds? (seconds : Int) (nanos : Nat) : Option Instant :=
  if h : (-8334601228800 ≤ seconds ∧ seconds ≤ 8210266876799) ∧
      (nanos < 1000000000 ∨ (nanos < 2000000000 ∧ seconds % 60 = 59)) then
    some ⟨seconds, nanos, h.1.1, h.1.2, h.2⟩
  else none

/-- The instant of milliseconds since the start of 1970, where there is one. -/
def ofMillis? (millis : Int) : Option Instant :=
  ofSeconds? (millis / 1000) ((millis % 1000).toNat * 1000000)

/-- Whole milliseconds since the start of 1970, rounded down. -/
def toMillis (t : Instant) : Int := t.seconds * 1000 + (t.nanos / 1000000 : Nat)

/-- The calendar date of an instant. -/
def date (t : Instant) : Date := .ofDays (t.seconds / 86400)

/-- Whether an instant lies in a leap second. -/
def isLeap (t : Instant) : Bool := decide (1000000000 ≤ t.nanos)

/-- A year in four digits, or with a sign where four digits do not do. -/
def yearText (year : Int) : List Char :=
  if 0 ≤ year ∧ year ≤ 9999 then Text.paddedNumeral 4 year.toNat
  else (if year < 0 then '-' else '+') :: Text.paddedNumeral 4 year.natAbs

/-- A date as year, month and day. -/
def dateText (d : Date) : List Char :=
  yearText d.year ++ '-' :: Text.paddedNumeral 2 d.month.toNat ++
    '-' :: Text.paddedNumeral 2 d.day.toNat

/-- A fraction of a second in none, three, six or nine digits: as few as are exact. -/
def fractionText (nanos : Nat) : List Char :=
  if nanos = 0 then []
  else if nanos % 1000000 = 0 then '.' :: Text.paddedNumeral 3 (nanos / 1000000)
  else if nanos % 1000 = 0 then '.' :: Text.paddedNumeral 6 (nanos / 1000)
  else '.' :: Text.paddedNumeral 9 nanos

/-- The time of day as hour, minute, second and fraction; a leap second is second sixty. -/
def timeText (secondOfDay nanos : Nat) : List Char :=
  let leap := if 1000000000 ≤ nanos then 1 else 0
  Text.paddedNumeral 2 (secondOfDay / 3600) ++
    ':' :: Text.paddedNumeral 2 (secondOfDay / 60 % 60) ++
    ':' :: Text.paddedNumeral 2 (secondOfDay % 60 + leap) ++
    fractionText (nanos % 1000000000)

/-- Date and time of an instant, with a character between them. -/
def clockText (separator : Char) (t : Instant) : List Char :=
  dateText t.date ++ separator :: timeText (t.seconds % 86400).toNat t.nanos

/-- The RFC 3339 form with the offset in digits. -/
def toRfc3339 (t : Instant) : String := String.ofList (t.clockText 'T' ++ "+00:00".toList)

/-- The diagnostic form, with the letter for universal time. -/
def toDiagnostic (t : Instant) : String := String.ofList (t.clockText 'T' ++ ['Z'])

end Instant

end WideColumn
