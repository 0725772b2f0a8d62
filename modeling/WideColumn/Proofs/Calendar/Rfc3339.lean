import WideColumn.Calendar.Reader
import WideColumn.Proofs.Calendar.Days
import WideColumn.Proofs.Text.Digits

/-! # Reading RFC 3339

An instant has many texts in RFC 3339: clocks that are ahead of universal time or behind it show
other dates and times, and a fraction may have more digits than it needs. What a clock shows
(`Instant.clock`) determines the instant, so all of them are read as the instant, in all years of
four digits. -/

namespace WideColumn

namespace Calendar

open Text (Reader Stops paddedNumeral)
open Text.Reader (char digits number bind_of_eq_some bind_of_eq_none)

/-! ## Fields -/

/-- A number of two digits is read, whatever follows. -/
theorem number_two {n : Nat} (h : n < 100) (rest : List Char) :
    number 2 2 (paddedNumeral 2 n ++ rest) = some (n, rest) :=
  Text.Reader.number_paddedNumeral (by decide) (by decide) h rest

theorem bounded_of_eq_some {read : Reader Nat} {cs rest : List Char} {low high n : Nat}
    (h : read cs = some (n, rest)) (hbounds : low ≤ n ∧ n ≤ high) :
    bounded low high read cs = some (n, rest) := by
  rw [bounded, bind_of_eq_some h, if_pos hbounds]
  rfl

/-- A number of two digits is read within its bounds. -/
theorem bounded_two {high n : Nat} (hle : n ≤ high) (hhigh : high < 100) (rest : List Char) :
    bounded 0 high (number 2 2) (paddedNumeral 2 n ++ rest) = some (n, rest) :=
  bounded_of_eq_some (number_two (by omega) rest) ⟨Nat.zero_le n, hle⟩

/-! ## Fractions -/

/-- Whether a text is a fraction of a second of so many nanoseconds: nothing for none of them, or a
point and nine digits at most. -/
inductive Fraction : Nat → List Char → Prop
  | none : Fraction 0 []
  | digits {nanos : Nat} {ds : List Char} (hdigit : ∀ c ∈ ds, c.isDigit = true)
    (positive : 1 ≤ ds.length) (hle : ds.length ≤ 9)
    (hvalue : Text.digitsValue ds * 10 ^ (9 - ds.length) = nanos) : Fraction nanos ('.' :: ds)

theorem Fraction.paddedNumeral {width n nanos : Nat} (positive : 0 < width) (hwidth : width ≤ 9)
    (h : n < 10 ^ width) (hvalue : n * 10 ^ (9 - width) = nanos) :
    Fraction nanos ('.' :: paddedNumeral width n) := by
  have hlength := Text.length_paddedNumeral positive h
  refine .digits (fun c => Text.isDigit_of_mem_paddedNumeral) (by omega) (by omega) ?_
  rw [hlength, Text.digitsValue_paddedNumeral, hvalue]

/-- The shortest exact fraction is one. -/
theorem fraction_fractionText {n : Nat} (h : n < 1000000000) :
    Fraction n (Instant.fractionText n) := by
  simp only [Instant.fractionText]
  split
  · next hzero =>
    rw [hzero]
    exact .none
  split
  · next hmilli => exact .paddedNumeral (by decide) (by decide) (by omega) (by omega)
  split
  · next hmicro => exact .paddedNumeral (by decide) (by decide) (by omega) (by omega)
  · exact .paddedNumeral (by decide) (by decide) h (by omega)

/-- A fraction is read in nanoseconds. -/
theorem Fraction.read {nanos : Nat} {text rest : List Char} (h : Fraction nanos text)
    (hdigit : Stops Char.isDigit rest) (hpoint : Stops (· == '.') rest) :
    fraction (text ++ rest) = some (nanos, rest) := by
  cases h with
  | none =>
    -- Nothing is taken, because no point follows.
    rw [List.nil_append, fraction]
    rintro back rfl
    cases Text.stops_cons.mp hpoint
  | @digits _ ds hds positive hle hvalue =>
    have hdigits : Text.Reader.digits 1 9 (ds ++ rest) = some (ds, rest) :=
      Text.Reader.digits_append_of_stops hds hdigit positive hle
    rw [List.cons_append, fraction, bind_of_eq_some hdigits, ← hvalue]
    exact congrArg (fun back => some (Text.digitsValue ds * 10 ^ (9 - ds.length), back))
      (Text.dropWhile_of_stops hdigit)

theorem Fraction.isBlank_of_mem {nanos : Nat} {text : List Char} (h : Fraction nanos text) :
    ∀ c ∈ text, Text.isBlank c = false := by
  cases h with
  | none => exact List.forall_mem_nil _
  | digits hdigit =>
    exact List.forall_mem_cons.mpr ⟨rfl, fun c hc => Text.isBlank_of_isDigit (hdigit c hc)⟩

/-! ## Offsets -/

/-- Whether a text is an offset of so many seconds: a letter for none, or less than 24 hours in
whole minutes, with one of two minus signs where the clock is behind. -/
inductive Zone : Int → List Char → Prop
  | universal {letter : Char} (h : letter = 'Z' ∨ letter = 'z') : Zone 0 [letter]
  | ahead {hours minutes : Nat} (hhours : hours < 24) (hminutes : minutes < 60) :
    Zone (hours * 3600 + minutes * 60)
      ('+' :: (paddedNumeral 2 hours ++ ':' :: paddedNumeral 2 minutes))
  | behind {sign : Char} (hsign : sign = '-' ∨ sign = '−') {hours minutes : Nat}
    (hhours : hours < 24) (hminutes : minutes < 60) :
    Zone (-(hours * 3600 + minutes * 60))
      (sign :: (paddedNumeral 2 hours ++ ':' :: paddedNumeral 2 minutes))

/-- Hours and minutes behind a sign are read as the offset. -/
theorem offset_signed {sign : Char} (hsign : sign = '+' ∨ sign = '-' ∨ sign = '−')
    {hours minutes : Nat} (hhours : hours < 24) (hminutes : minutes < 60) :
    offset (sign :: (paddedNumeral 2 hours ++ ':' :: paddedNumeral 2 minutes)) =
      some (if sign = '+' then (hours * 3600 + minutes * 60 : Int)
        else -(hours * 3600 + minutes * 60), []) := by
  have hminute := @bounded_two 59 minutes (by omega) (by decide) []
  rw [List.append_nil] at hminute
  have hseconds : (hours * 3600 + minutes * 60 : Int) < 86400 := by omega
  -- The equation for signs holds where the first character is neither of the two letters.
  rw [offset]
  · rw [if_pos hsign, bind_of_eq_some (number_two (by omega) _),
      bind_of_eq_some (Text.Reader.char_append ':' _), bind_of_eq_some hminute]
    simp only [if_pos hseconds]
    rfl
  · rintro rfl
    simp at hsign
  · rintro rfl
    simp at hsign

theorem Zone.read {ahead : Int} {zone : List Char} (h : Zone ahead zone) :
    offset zone = some (ahead, []) := by
  cases h with
  | universal h => rcases h with rfl | rfl <;> rfl
  | ahead hhours hminutes => exact offset_signed (Or.inl rfl) hhours hminutes
  | behind hsign hhours hminutes =>
    rw [offset_signed (Or.inr hsign) hhours hminutes, if_neg]
    rcases hsign with rfl | rfl <;> decide

/-- Offsets are whole minutes. -/
theorem Zone.emod_sixty {ahead : Int} {zone : List Char} (h : Zone ahead zone) :
    ahead % 60 = 0 := by
  cases h <;> omega

/-- An offset begins with a letter or a sign, so neither fraction nor digits go on there. -/
theorem Zone.stops {ahead : Int} {zone : List Char} (h : Zone ahead zone) :
    Stops Char.isDigit zone ∧ Stops (· == '.') zone := by
  rw [Stops, Stops]
  cases h with
  | universal h => rcases h with rfl | rfl <;> exact ⟨by simp, by simp⟩
  | ahead => exact ⟨by simp, by simp⟩
  | behind hsign => rcases hsign with rfl | rfl <;> exact ⟨by simp, by simp⟩

theorem Zone.isBlank_of_mem {ahead : Int} {zone : List Char} (h : Zone ahead zone) :
    ∀ c ∈ zone, Text.isBlank c = false := by
  have hsigned : ∀ {sign : Char} {hours minutes : Nat}, Text.isBlank sign = false →
      ∀ c ∈ sign :: (paddedNumeral 2 hours ++ ':' :: paddedNumeral 2 minutes),
        Text.isBlank c = false := fun hsign => by
    simp only [List.forall_mem_cons, List.forall_mem_append]
    exact ⟨hsign, Text.isBlank_of_mem_paddedNumeral, rfl, Text.isBlank_of_mem_paddedNumeral⟩
  cases h with
  | universal h => rcases h with rfl | rfl <;> exact Text.isBlank_eq_false_of_all rfl
  | ahead => exact hsigned rfl
  | behind hsign => rcases hsign with rfl | rfl <;> exact hsigned rfl

/-! ## Clocks -/

/-- What a reading of RFC 3339 goes on with behind the date. -/
def rfc3339Time (date : Date) : Reader Instant := do
  rfc3339Separator
  let hour ← bounded 0 23 (number 2 2)
  char ':'
  let minute ← bounded 0 59 (number 2 2)
  char ':'
  let second ← bounded 0 60 (number 2 2)
  let nanos ← fraction
  let ahead ← offset
  Clock.toInstant? ⟨date, hour, minute, second, nanos⟩ ahead

namespace Date

theorem day_le {d : Date} (h : d.Valid) : d.day ≤ 31 := by
  obtain ⟨-, -, -, hlast⟩ := h
  refine Int.le_trans hlast ?_
  simp only [monthLength]
  omega

/-- The date in a text is made up of natural numbers. -/
theorem mk_toNat {d : Date} (h : d.Valid) (hyear : 0 ≤ d.year) :
    (⟨d.year.toNat, d.month.toNat, d.day.toNat⟩ : Date) = d := by
  obtain ⟨hmonth, -, hday, -⟩ := h
  rw [Int.toNat_of_nonneg hyear, Int.toNat_of_nonneg (by omega), Int.toNat_of_nonneg (by omega)]

/-- A date in front of a time is read. -/
theorem rfc3339_dateText {d : Date} (h : d.Valid) (hyear : 0 ≤ d.year ∧ d.year ≤ 9999)
    (rest : List Char) : rfc3339 (Instant.dateText d ++ rest) = rfc3339Time d rest := by
  have hmonth := h.2.1
  have hday := day_le h
  have hfour := @Text.Reader.number_paddedNumeral 4 4 d.year.toNat (by decide) (by decide)
    (by omega)
  simp only [Instant.dateText, Instant.yearText, if_pos hyear, List.append_assoc,
    List.cons_append]
  rw [rfc3339, bind_of_eq_some (hfour _), bind_of_eq_some (Text.Reader.char_append '-' _),
    bind_of_eq_some (number_two (by omega) _), bind_of_eq_some (Text.Reader.char_append '-' _),
    bind_of_eq_some (number_two (by omega) _), mk_toNat h hyear.1]
  rfl

end Date

namespace Clock

/-- A time of day as hour, minute and second, with a text behind it. -/
def timeText (c : Clock) (rest : List Char) : List Char :=
  paddedNumeral 2 c.hour ++ ':' :: (paddedNumeral 2 c.minute ++ ':' ::
    (paddedNumeral 2 c.second ++ rest))

/-- Whether a clock shows a date of the calendar in a year of four digits and a time of day. -/
structure Legible (c : Clock) : Prop where
  valid : c.date.Valid
  year : 0 ≤ c.date.year ∧ c.date.year ≤ 9999
  hour : c.hour ≤ 23
  minute : c.minute ≤ 59
  second : c.second ≤ 60

/-- **RFC 3339 up to the offset:** date, time and fraction of a clock are read. -/
theorem rfc3339_text {c : Clock} (h : c.Legible) {separator : Char}
    (hseparator : separator = 'T' ∨ separator = 't' ∨ separator = ' ') {fraction zone : List Char}
    (hfraction : Calendar.fraction (fraction ++ zone) = some (c.nanos, zone)) :
    rfc3339 (Instant.dateText c.date ++ separator :: c.timeText (fraction ++ zone)) =
      (offset zone).bind fun p => (c.toInstant? p.1).map fun t => (t, p.2) := by
  have hread : rfc3339Separator (separator :: c.timeText (fraction ++ zone)) =
      some ((), c.timeText (fraction ++ zone)) := by
    rcases hseparator with rfl | rfl | rfl <;> rfl
  rw [Date.rfc3339_dateText h.valid h.year, rfc3339Time, bind_of_eq_some hread, timeText,
    bind_of_eq_some (bounded_two h.hour (by decide) _),
    bind_of_eq_some (Text.Reader.char_append ':' _),
    bind_of_eq_some (bounded_two h.minute (by decide) _),
    bind_of_eq_some (Text.Reader.char_append ':' _),
    bind_of_eq_some (bounded_two h.second (by decide) _), bind_of_eq_some hfraction]
  cases hzone : offset zone with
  | none => exact bind_of_eq_none hzone _
  | some p =>
    rw [bind_of_eq_some hzone, Option.bind_some]
    exact Text.Reader.lift_eq (c.toInstant? p.1) p.2

end Clock

end Calendar

namespace Instant

open Calendar (Clock Date)

/-- What a clock that is ahead of universal time by some seconds shows at an instant. In a leap
second it shows second sixty. -/
def clock (t : Instant) (ahead : Int) : Clock :=
  let s := ((t.seconds + ahead) % 86400).toNat
  ⟨.ofDays ((t.seconds + ahead) / 86400), s / 3600, s / 60 % 60,
    s % 60 + (if 1000000000 ≤ t.nanos then 1 else 0), t.nanos % 1000000000⟩

theorem date_clock (t : Instant) : (t.clock 0).date = t.date := by
  show Date.ofDays ((t.seconds + 0) / 86400) = Date.ofDays (t.seconds / 86400)
  rw [Int.add_zero]

theorem legible_clock {t : Instant} {ahead : Int}
    (h : 0 ≤ (t.clock ahead).date.year ∧ (t.clock ahead).date.year ≤ 9999) :
    (t.clock ahead).Legible where
  valid := Date.valid_ofDays _
  year := h
  hour := by
    simp only [clock]
    omega
  minute := by
    simp only [clock]
    omega
  second := by
    simp only [clock]
    split <;> omega

/-- **A clock tells the instant,** if it is ahead by whole minutes. -/
theorem toInstant?_clock (t : Instant) {ahead : Int} (hahead : ahead % 60 = 0)
    (h : 0 ≤ (t.clock ahead).date.year ∧ (t.clock ahead).date.year ≤ 9999) :
    (t.clock ahead).toInstant? ahead = some t := by
  obtain ⟨s, hs⟩ : ∃ s, s = ((t.seconds + ahead) % 86400).toNat := ⟨_, rfl⟩
  have hvalid : (t.clock ahead).date.Valid ∧ -262143 ≤ (t.clock ahead).date.year ∧
      (t.clock ahead).date.year ≤ 262142 := ⟨Date.valid_ofDays _, by omega, by omega⟩
  have hdays : (t.clock ahead).date.toDays = (t.seconds + ahead) / 86400 := Date.toDays_ofDays _
  have hnanos := t.nanos_lt
  -- Second and nanoseconds are put together as they were taken apart.
  have hparts : (if s % 60 + (if 1000000000 ≤ t.nanos then 1 else 0) = 60 then
      (59, t.nanos % 1000000000 + 1000000000)
      else (s % 60 + (if 1000000000 ≤ t.nanos then 1 else 0), t.nanos % 1000000000)) =
      (s % 60, t.nanos) := by
    by_cases hleap : 1000000000 ≤ t.nanos
    · -- Whole minutes do not move the second of the minute, which is the last one.
      have hlast : s % 60 = 59 := by omega
      rw [if_pos hleap, hlast, if_pos rfl]
      exact congrArg (fun n => (59, n)) (show t.nanos % 1000000000 + 1000000000 = t.nanos by omega)
    · have hwhole : t.nanos % 1000000000 = t.nanos := Nat.mod_eq_of_lt (by omega)
      rw [if_neg hleap, if_neg (by omega), hwhole, Nat.add_zero]
  have hseconds : (t.clock ahead).date.toDays * 86400 +
      (s / 3600 * 3600 + s / 60 % 60 * 60 + s % 60 : Nat) - ahead = t.seconds := by
    rw [hdays]
    omega
  have hfields : (t.clock ahead).hour = s / 3600 ∧ (t.clock ahead).minute = s / 60 % 60 ∧
      (t.clock ahead).second = s % 60 + (if 1000000000 ≤ t.nanos then 1 else 0) ∧
      (t.clock ahead).nanos = t.nanos % 1000000000 := by
    rw [hs]
    exact ⟨rfl, rfl, rfl, rfl⟩
  obtain ⟨hhour, hminute, hsecond, hfraction⟩ := hfields
  rw [Clock.toInstant?, hhour, hminute, hsecond, hfraction]
  simp only [hparts]
  rw [if_pos hvalid, hseconds, ofSeconds?, dif_pos ⟨⟨t.first_le, t.le_last⟩, t.nanos_lt⟩]

/-- The text of an instant is that of a clock in universal time, with the shortest fraction. -/
theorem clockText_eq (t : Instant) (separator : Char) :
    t.clockText separator = dateText t.date ++
      separator :: (t.clock 0).timeText (fractionText (t.nanos % 1000000000)) := by
  simp only [clockText, timeText, Clock.timeText, clock, Int.add_zero, List.append_assoc,
    List.cons_append]

/-- **RFC 3339 denotes the instant,** whatever the offset and the fraction are written like. -/
theorem read?_rfc3339 {t : Instant} {separator : Char}
    (hseparator : separator = 'T' ∨ separator = 't' ∨ separator = ' ') {ahead : Int}
    (h : 0 ≤ (t.clock ahead).date.year ∧ (t.clock ahead).date.year ≤ 9999)
    {fraction zone : List Char} (hfraction : Calendar.Fraction (t.nanos % 1000000000) fraction)
    (hzone : Calendar.Zone ahead zone) :
    read? (dateText (t.clock ahead).date ++
      separator :: (t.clock ahead).timeText (fraction ++ zone)) = some t := by
  obtain ⟨hdigit, hpoint⟩ := hzone.stops
  have hread := Clock.rfc3339_text (legible_clock h) hseparator (hfraction.read hdigit hpoint)
  rw [hzone.read, Option.bind_some, t.toInstant?_clock hzone.emod_sixty h, Option.map_some] at hread
  rw [read?, Text.Reader.whole_of_eq_some hread]
  rfl

end Instant

end WideColumn
