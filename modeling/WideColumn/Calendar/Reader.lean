import WideColumn.Calendar.Instant
import WideColumn.Text.Blank
import WideColumn.Text.Reader

/-! # Timestamp text
Reading an instant from text in one of three notations, tried in this order: RFC 3339 with an
offset; date and time of day in universal time; a date alone, which stands for its midnight. The
last two are lenient about the number of digits and about white space. -/

namespace WideColumn

namespace Calendar

open Text (Reader)
open Text.Reader (char digits number anyNumber)

/-- Takes white space, if there is some. -/
def blanks : Reader Unit := fun cs => some ((), Text.trimStart cs)

/-- Takes a number within bounds. -/
def bounded (low high : Nat) (read : Reader Nat) : Reader Nat := do
  let n ← read
  if low ≤ n ∧ n ≤ high then return n else failure

/-- Takes a fraction of a second, if a point follows: nanoseconds from its first nine digits. -/
def fraction : Reader Nat := fun cs =>
  match cs with
  | '.' :: rest => (do
      let found ← digits 1 9
      let _ ← (fun cs => some ((), cs.dropWhile Char.isDigit) : Reader Unit)
      return Text.digitsValue found * Nat.pow 10 (9 - found.length)) rest
  | _ => some (0, cs)

/-- A date and a time of day without an offset. A second sixty is a leap second. -/
structure Clock where
  date : Date
  hour : Nat
  minute : Nat
  second : Nat
  nanos : Nat

namespace Clock

/-- The instant that a clock shows where it is ahead of universal time by `offset` seconds. -/
def toInstant? (c : Clock) (offset : Int) : Option Instant :=
  let (second, nanos) := if c.second = 60 then (59, c.nanos + 1000000000) else (c.second, c.nanos)
  if c.date.Valid ∧ -262143 ≤ c.date.year ∧ c.date.year ≤ 262142 then
    Instant.ofSeconds?
      (c.date.toDays * 86400 + (c.hour * 3600 + c.minute * 60 + second : Nat) - offset) nanos
  else none

end Clock

/-- Takes an offset from universal time in seconds: a letter for none, or a sign, hours and
minutes. -/
def offset : Reader Int := fun cs =>
  match cs with
  | 'Z' :: rest | 'z' :: rest => some (0, rest)
  | sign :: rest =>
    if sign = '+' ∨ sign = '-' ∨ sign = '−' then (do
      let hours ← number 2 2
      char ':'
      let minutes ← bounded 0 59 (number 2 2)
      let seconds : Int := hours * 3600 + minutes * 60
      if seconds < 86400 then return if sign = '+' then seconds else -seconds else failure) rest
    else none
  | [] => none

/-- Takes the separator of date and time in RFC 3339. -/
def rfc3339Separator : Reader Unit := fun cs =>
  match cs with
  | 'T' :: rest | 't' :: rest | ' ' :: rest => some ((), rest)
  | _ => none

/-- Takes a timestamp in RFC 3339. -/
def rfc3339 : Reader Instant := do
  let year ← number 4 4
  char '-'
  let month ← number 2 2
  char '-'
  let day ← number 2 2
  rfc3339Separator
  let hour ← bounded 0 23 (number 2 2)
  char ':'
  let minute ← bounded 0 59 (number 2 2)
  char ':'
  let second ← bounded 0 60 (number 2 2)
  let nanos ← fraction
  let ahead ← offset
  let clock : Clock := ⟨⟨year, month, day⟩, hour, minute, second, nanos⟩
  clock.toInstant? ahead

/-- Takes a year: four digits at most, or any number of them behind a sign. -/
def year : Reader Int := fun cs =>
  match cs with
  | '-' :: rest => (do return -((← anyNumber : Nat) : Int)) rest
  | '+' :: rest => (do return ((← anyNumber : Nat) : Int)) rest
  | cs => (do return ((← number 1 4 : Nat) : Int)) cs

/-- Takes a field of at most two digits, with white space in front of it. -/
def field : Reader Nat := do
  blanks
  number 1 2

/-- Takes a date whose fields may be short. -/
def looseDate : Reader Date := do
  blanks
  let year ← year
  char '-'
  let month ← field
  char '-'
  let day ← field
  return ⟨year, month, day⟩

/-- Takes a date and a time of day in universal time. -/
def dateAndTime : Reader Instant := do
  let date ← looseDate
  blanks
  let hour ← bounded 0 23 field
  char ':'
  let minute ← bounded 0 59 field
  char ':'
  let second ← bounded 0 60 field
  let nanos ← fraction
  Clock.toInstant? ⟨date, hour, minute, second, nanos⟩ 0

/-- Takes a date and gives its midnight. -/
def dateOnly : Reader Instant := do
  let date ← looseDate
  Clock.toInstant? ⟨date, 0, 0, 0, 0⟩ 0

end Calendar

/-- The instant that a text denotes. -/
def Instant.read? (cs : List Char) : Option Instant :=
  Calendar.rfc3339.whole cs <|> Calendar.dateAndTime.whole cs <|> Calendar.dateOnly.whole cs

end WideColumn
