import WideColumn.Proofs.Calendar.Rfc3339
import WideColumn.Proofs.Conversion.NativeValues
import WideColumn.Proofs.Text.Words
import WideColumn.Value.Json

/-! # Notations of timestamps

A column of timestamps takes an instant in many notations: as it is, as its milliseconds, in RFC
3339 with any offset, as date and time of day, and as a date if it is a midnight. `Denoted` says
which values these are, starting from the instant, and all of them are made into the same cell. The
readers of text are tried one after the other, so what is in a later notation has to be shown to be
refused in the earlier ones. -/

namespace WideColumn

namespace Calendar

open Text (Stops paddedNumeral)
open Text.Reader (bind_of_eq_some)

/-! ## Lenient fields -/

/-- A number in digits has no white space in front. -/
theorem blanks_paddedNumeral (width n : Nat) (rest : List Char) :
    blanks (paddedNumeral width n ++ rest) = some ((), paddedNumeral width n ++ rest) := by
  have hstops : Stops Text.isBlank (paddedNumeral width n ++ rest) := by
    intro c hc
    rw [List.head?_append_of_ne_nil _ (Text.paddedNumeral_ne_nil width n)] at hc
    exact Text.isBlank_of_mem_paddedNumeral c (List.mem_of_mem_head? hc)
  exact congrArg (fun cs => some ((), cs)) (Text.dropWhile_of_stops hstops)

theorem field_paddedNumeral {n : Nat} (h : n < 100) (rest : List Char) :
    field (paddedNumeral 2 n ++ rest) = some (n, rest) := by
  rw [field, bind_of_eq_some (blanks_paddedNumeral 2 n rest)]
  exact Text.Reader.number_paddedNumeral (by decide) (by decide) h rest

theorem bounded_field {high n : Nat} (hle : n ≤ high) (hhigh : high < 100) (rest : List Char) :
    bounded 0 high field (paddedNumeral 2 n ++ rest) = some (n, rest) :=
  bounded_of_eq_some (field_paddedNumeral (by omega) rest) ⟨Nat.zero_le n, hle⟩

/-- A year in four digits has no sign. -/
theorem year_paddedNumeral {n : Nat} (h : n < 10000) (rest : List Char) :
    year (paddedNumeral 4 n ++ rest) = some ((n : Int), rest) := by
  have hnumber := @Text.Reader.number_paddedNumeral 1 4 n (by decide) (by decide) h rest
  have hsign : ∀ sign back, sign.isDigit = false → paddedNumeral 4 n ++ rest ≠ sign :: back := by
    intro sign back hsign heq
    have hmem : sign ∈ paddedNumeral 4 n := by
      apply List.mem_of_mem_head?
      rw [← List.head?_append_of_ne_nil _ (Text.paddedNumeral_ne_nil 4 n), heq]
      rfl
    rw [Text.isDigit_of_mem_paddedNumeral hmem] at hsign
    cases hsign
  -- The equation for years without a sign holds where the first character is no sign.
  rw [year]
  · rw [bind_of_eq_some hnumber]
    rfl
  · exact fun back => hsign '-' back rfl
  · exact fun back => hsign '+' back rfl

namespace Date

/-- A date is read, whatever follows. -/
theorem looseDate_dateText {d : Date} (h : d.Valid) (hyear : 0 ≤ d.year ∧ d.year ≤ 9999)
    (rest : List Char) : looseDate (Instant.dateText d ++ rest) = some (d, rest) := by
  have hmonth := h.2.1
  have hday := day_le h
  simp only [Instant.dateText, Instant.yearText, if_pos hyear, List.append_assoc,
    List.cons_append]
  rw [looseDate, bind_of_eq_some (blanks_paddedNumeral 4 _ _),
    bind_of_eq_some (year_paddedNumeral (by omega) _),
    bind_of_eq_some (Text.Reader.char_append '-' _),
    bind_of_eq_some (field_paddedNumeral (by omega) _),
    bind_of_eq_some (Text.Reader.char_append '-' _),
    bind_of_eq_some (field_paddedNumeral (by omega) _), mk_toNat h hyear.1]
  rfl

end Date

/-! ## Date and time, and dates alone -/

/-- Without an offset, a date and a time are not in RFC 3339; they are read as universal time. -/
theorem Clock.read_text {c : Clock} (h : c.Legible) {fraction : List Char}
    (hfraction : Fraction c.nanos fraction) {t : Instant} (ht : c.toInstant? 0 = some t) :
    Instant.read? (Instant.dateText c.date ++ ' ' :: c.timeText fraction) = some t := by
  have hread := hfraction.read (Text.stops_nil _) (Text.stops_nil _)
  -- RFC 3339 admits the space, so it is only the missing offset that the first reader fails at.
  have hstrict := rfc3339_text h (Or.inr (Or.inr rfl)) hread
  rw [List.append_nil] at hread hstrict
  have hblank : blanks (' ' :: c.timeText fraction) = some ((), c.timeText fraction) :=
    blanks_paddedNumeral 2 c.hour _
  have hloose : dateAndTime (Instant.dateText c.date ++ ' ' :: c.timeText fraction) =
      some (t, []) := by
    rw [dateAndTime, bind_of_eq_some (Date.looseDate_dateText h.valid h.year _),
      bind_of_eq_some hblank, timeText, bind_of_eq_some (bounded_field h.hour (by decide) _),
      bind_of_eq_some (Text.Reader.char_append ':' _),
      bind_of_eq_some (bounded_field h.minute (by decide) _),
      bind_of_eq_some (Text.Reader.char_append ':' _),
      bind_of_eq_some (bounded_field h.second (by decide) _), bind_of_eq_some hread]
    rw [Text.Reader.lift_eq, ht]
    rfl
  rw [Instant.read?, Text.Reader.whole_of_eq_none hstrict, Text.Reader.whole_of_eq_some hloose]
  rfl

/-- A date alone lacks the time that the other notations go on with; it is read as its midnight. -/
theorem Date.read_dateText {d : Date} (h : d.Valid) (hyear : 0 ≤ d.year ∧ d.year ≤ 9999)
    {t : Instant} (ht : Clock.toInstant? ⟨d, 0, 0, 0, 0⟩ 0 = some t) :
    Instant.read? (Instant.dateText d) = some t := by
  have hdate := looseDate_dateText h hyear []
  -- The first reader fails at the separator, the second one at the hour.
  have hstrict := rfc3339_dateText h hyear []
  rw [List.append_nil] at hdate hstrict
  have hloose : dateAndTime (Instant.dateText d) = none := by
    rw [dateAndTime, bind_of_eq_some hdate]
    rfl
  have halone : dateOnly (Instant.dateText d) = some (t, []) := by
    rw [dateOnly, bind_of_eq_some hdate]
    rw [Text.Reader.lift_eq, ht]
    rfl
  rw [Instant.read?, Text.Reader.whole_of_eq_none hstrict, Text.Reader.whole_of_eq_none hloose,
    Text.Reader.whole_of_eq_some halone]
  rfl

end Calendar

namespace Instant

open Calendar (Clock Date Fraction Zone)
open Text (paddedNumeral)

/-! ## Texts of an instant -/

/-- Whether a text without white space around it denotes an instant. Years have four digits where
the clock is. -/
inductive Spelling (t : Instant) : List Char → Prop
  /-- As it is in JSON. -/
  | printed {s : String} (hjson : (Value.timestamp t).toJson = .string s)
    (hyear : 0 ≤ t.date.year ∧ t.date.year ≤ 9999) : Spelling t s.toList
  /-- In RFC 3339, by any clock. -/
  | rfc3339 {separator : Char} (hseparator : separator = 'T' ∨ separator = 't' ∨ separator = ' ')
    {ahead : Int} (hyear : 0 ≤ (t.clock ahead).date.year ∧ (t.clock ahead).date.year ≤ 9999)
    {fraction zone : List Char} (hfraction : Fraction (t.nanos % 1000000000) fraction)
    (hzone : Zone ahead zone) :
    Spelling t (dateText (t.clock ahead).date ++
      separator :: (t.clock ahead).timeText (fraction ++ zone))
  /-- As date and time of day in universal time. -/
  | dateAndTime (hyear : 0 ≤ t.date.year ∧ t.date.year ≤ 9999) {fraction : List Char}
    (hfraction : Fraction (t.nanos % 1000000000) fraction) :
    Spelling t (dateText t.date ++ ' ' :: (t.clock 0).timeText fraction)
  /-- As its date, if it is a midnight. -/
  | date (hyear : 0 ≤ t.date.year ∧ t.date.year ≤ 9999) (hseconds : t.seconds % 86400 = 0)
    (hnanos : t.nanos = 0) : Spelling t (dateText t.date)

/-- The printed form is that of the clock in universal time. -/
theorem toList_toRfc3339 (t : Instant) : t.toRfc3339.toList = dateText (t.clock 0).date ++
    'T' :: (t.clock 0).timeText (fractionText (t.nanos % 1000000000) ++ "+00:00".toList) := by
  rw [toRfc3339, String.toList_ofList, clockText_eq, date_clock]
  simp only [Clock.timeText, List.append_assoc, List.cons_append]

theorem zone_printed : Zone 0 "+00:00".toList := @Zone.ahead 0 0 (by decide) (by decide)

theorem fraction_printed (t : Instant) :
    Fraction (t.nanos % 1000000000) (fractionText (t.nanos % 1000000000)) :=
  Calendar.fraction_fractionText (Nat.mod_lt _ (by decide))

/-- A midnight is what the clock shows at the beginning of its date. -/
theorem toInstant?_midnight {t : Instant} (hyear : 0 ≤ t.date.year ∧ t.date.year ≤ 9999)
    (hseconds : t.seconds % 86400 = 0) (hnanos : t.nanos = 0) :
    Clock.toInstant? ⟨t.date, 0, 0, 0, 0⟩ 0 = some t := by
  have hclock : t.clock 0 = ⟨t.date, 0, 0, 0, 0⟩ := by
    rw [clock, Int.add_zero, hseconds, hnanos]
    rfl
  rw [← hclock]
  exact t.toInstant?_clock rfl (date_clock t ▸ hyear)

namespace Spelling

variable {t : Instant} {cs : List Char}

/-- **All texts of an instant are read as the instant.** -/
theorem read?_eq (h : Spelling t cs) : read? cs = some t := by
  cases h with
  | printed hjson hyear =>
    cases hjson
    rw [toList_toRfc3339]
    exact read?_rfc3339 (Or.inl rfl) (date_clock t ▸ hyear) t.fraction_printed zone_printed
  | rfc3339 hseparator hyear hfraction hzone =>
    exact read?_rfc3339 hseparator hyear hfraction hzone
  | dateAndTime hyear hfraction =>
    rw [← date_clock t] at hyear ⊢
    exact Clock.read_text (legible_clock hyear) hfraction (t.toInstant?_clock rfl hyear)
  | date hyear hseconds hnanos =>
    exact Date.read_dateText (Date.valid_ofDays _) hyear (toInstant?_midnight hyear hseconds hnanos)

/-- Date and time begin with a year and end with a second and what there is behind it. -/
theorem exists_clock_eq (c : Clock) (hyear : 0 ≤ c.date.year ∧ c.date.year ≤ 9999)
    (separator : Char) (rest : List Char) :
    ∃ year mid second, dateText c.date ++ separator :: c.timeText rest =
      paddedNumeral 4 year ++ (mid ++ (paddedNumeral 2 second ++ rest)) := by
  refine ⟨c.date.year.toNat, '-' :: (paddedNumeral 2 c.date.month.toNat ++
    '-' :: (paddedNumeral 2 c.date.day.toNat ++ separator ::
      (paddedNumeral 2 c.hour ++ ':' :: (paddedNumeral 2 c.minute ++ [':'])))), c.second, ?_⟩
  simp only [dateText, yearText, if_pos hyear, Clock.timeText, List.append_assoc, List.cons_append,
    List.nil_append]

/-- A text of an instant begins with digits and ends with digits or what may follow them. -/
theorem exists_eq (h : Spelling t cs) : ∃ first mid last rest,
    cs = paddedNumeral 4 first ++ (mid ++ (paddedNumeral 2 last ++ rest)) ∧
      ∀ c ∈ rest, Text.isBlank c = false := by
  cases h with
  | printed hjson hyear =>
    cases hjson
    obtain ⟨year, mid, second, heq⟩ := exists_clock_eq (t.clock 0) (date_clock t ▸ hyear) 'T'
      (fractionText (t.nanos % 1000000000) ++ "+00:00".toList)
    exact ⟨year, mid, second, _, t.toList_toRfc3339.trans heq,
      List.forall_mem_append.mpr ⟨t.fraction_printed.isBlank_of_mem, zone_printed.isBlank_of_mem⟩⟩
  | @rfc3339 separator _ ahead hyear fraction zone hfraction hzone =>
    obtain ⟨year, mid, second, heq⟩ := exists_clock_eq (t.clock ahead) hyear separator
      (fraction ++ zone)
    exact ⟨year, mid, second, _, heq,
      List.forall_mem_append.mpr ⟨hfraction.isBlank_of_mem, hzone.isBlank_of_mem⟩⟩
  | @dateAndTime hyear fraction hfraction =>
    rw [← date_clock t] at hyear ⊢
    obtain ⟨year, mid, second, heq⟩ := exists_clock_eq (t.clock 0) hyear ' ' fraction
    exact ⟨year, mid, second, _, heq, hfraction.isBlank_of_mem⟩
  | date hyear =>
    refine ⟨t.date.year.toNat, '-' :: (paddedNumeral 2 t.date.month.toNat ++ ['-']),
      t.date.day.toNat, [], ?_, List.forall_mem_nil _⟩
    simp only [dateText, yearText, if_pos hyear, List.append_assoc, List.cons_append,
      List.nil_append, List.append_nil]

/-- White space around a text of an instant is trimmed off and nothing else. -/
theorem trimmedTo (h : Spelling t cs) {before after : List Char}
    (hbefore : ∀ c ∈ before, Text.isBlank c = true) (hafter : ∀ c ∈ after, Text.isBlank c = true) :
    Text.TrimmedTo (before ++ cs ++ after) cs := by
  obtain ⟨first, mid, last, rest, rfl, hrest⟩ := h.exists_eq
  have hback : paddedNumeral 2 last ++ rest ≠ [] :=
    List.append_ne_nil_of_left_ne_nil (Text.paddedNumeral_ne_nil 2 last) rest
  refine ⟨⟨before, after, rfl, hbefore, hafter⟩, ?_, ?_⟩
  · intro c hc
    rw [List.head?_append_of_ne_nil _ (Text.paddedNumeral_ne_nil 4 first)] at hc
    exact Text.isBlank_of_mem_paddedNumeral c (List.mem_of_mem_head? hc)
  · intro c hc
    rw [List.getLast?_append_of_ne_nil _ (List.append_ne_nil_of_right_ne_nil mid hback),
      List.getLast?_append_of_ne_nil _ hback] at hc
    exact List.forall_mem_append.mpr ⟨Text.isBlank_of_mem_paddedNumeral, hrest⟩ c
      (List.mem_of_mem_getLast? hc)

end Spelling

/-! ## Values of an instant -/

/-- Whether a value denotes an instant. White space around a text does not matter, and whole
milliseconds can be counted unless they are in a leap second. -/
inductive Denoted (t : Instant) : Value → Prop
  | timestamp : Denoted t (.timestamp t)
  | millis (hwhole : t.nanos % 1000000 = 0) (hleap : t.isLeap = false) :
    Denoted t (.int (.ofInt t.toMillis))
  | text {s : String} {before cs after : List Char} (hsplit : s.toList = before ++ cs ++ after)
    (hbefore : ∀ c ∈ before, Text.isBlank c = true) (hafter : ∀ c ∈ after, Text.isBlank c = true)
    (h : Spelling t cs) : Denoted t (.text s)

/-- The milliseconds of all instants have 64 bits. -/
theorem toInt_toMillis (t : Instant) : (Int64.ofInt t.toMillis).toInt = t.toMillis := by
  have hfirst := t.first_le
  have hlast := t.le_last
  have hnanos := t.nanos_lt
  apply Int64.toInt_ofInt_of_le
  · rw [toMillis]
    omega
  · rw [toMillis]
    omega

/-- Whole milliseconds are an instant again, before 1970 as well. -/
theorem ofMillis?_toMillis {t : Instant} (hwhole : t.nanos % 1000000 = 0)
    (hleap : t.isLeap = false) : ofMillis? t.toMillis = some t := by
  have hnanos : t.nanos < 1000000000 := by simpa [isLeap] using hleap
  have hquotient : t.toMillis / 1000 = t.seconds := by
    rw [toMillis]
    omega
  have hremainder : (t.toMillis % 1000).toNat * 1000000 = t.nanos := by
    rw [toMillis]
    omega
  rw [ofMillis?, hquotient, hremainder, ofSeconds?,
    dif_pos ⟨⟨t.first_le, t.le_last⟩, t.nanos_lt⟩]

end Instant

namespace Conversion

open Calendar (Fraction Zone)
open Instant (Denoted Spelling)

theorem toTimestamp_of_denoted {t : Instant} {value : Value} (h : Denoted t value) :
    toTimestamp value = .ok (.timestamp t) := by
  -- The equations of `toTimestamp` would open the reader of timestamps.
  delta toTimestamp
  cases h with
  | timestamp => rfl
  | millis hwhole hleap =>
    simp only [t.toInt_toMillis, Instant.ofMillis?_toMillis hwhole hleap]
  | @text s before cs after hsplit hbefore hafter h =>
    have hread : Instant.read? (trimmed s) = some t := by
      rw [trimmed, hsplit, Text.trimmedTo_iff.mp (h.trimmedTo hbefore hafter), h.read?_eq]
    simp only [hread]

/-- The printed form goes back into a column. -/
theorem toTimestamp_toRfc3339 {t : Instant} (h : 0 ≤ t.date.year ∧ t.date.year ≤ 9999) :
    toTimestamp (.text t.toRfc3339) = .ok (.timestamp t) := by
  have hsplit : t.toRfc3339.toList = [] ++ t.toRfc3339.toList ++ [] := by
    rw [List.nil_append, List.append_nil]
  exact toTimestamp_of_denoted (.text hsplit (List.forall_mem_nil _) (List.forall_mem_nil _)
    (.printed rfl h))

/-- **The notations of timestamps agree:** a column of timestamps gets the same instant from every
value that denotes it, whatever happens to identifiers. -/
theorem convert_of_denoted {t : Instant} {value : Value} (h : Denoted t value)
    {schema : Schema} {column : String} (hcolumn : schema.columnType? column = some .timestamp)
    (policy : UuidPolicy) (mint : Mint) :
    convert policy mint schema column value = .ok (.timestamp t) := by
  apply convert_of_ok hcolumn
  rw [← toTimestamp_of_denoted h]
  -- A value is tried as a typed one first, and none of these is.
  cases h <;> rfl

/-- Half past eleven in the evening of the last day of 1969 and half a second, by a clock that shows
the next year already. -/
theorem convert_of_denoted_new_year :
    let t : Instant := ⟨-1800, 500000000, by decide, by decide, by decide⟩
    let schema : Schema := ⟨"log", [("at", .timestamp)]⟩
    let value : Value := .text " 1970-01-01T05:00:00.500+05:30\n"
    Denoted t value ∧ schema.columnType? "at" = some .timestamp ∧
      ∀ policy mint, convert policy mint schema "at" value = .ok (.timestamp t) := by
  intro t schema value
  have hyear : 0 ≤ (t.clock 19800).date.year ∧ (t.clock 19800).date.year ≤ 9999 := by decide
  have hfraction : Fraction (t.nanos % 1000000000) ".500".toList :=
    @Fraction.paddedNumeral 3 500 _ (by decide) (by decide) (by decide) rfl
  have hzone : Zone 19800 "+05:30".toList := @Zone.ahead 5 30 (by decide) (by decide)
  have htext : Instant.dateText (t.clock 19800).date ++
      'T' :: (t.clock 19800).timeText (".500".toList ++ "+05:30".toList) =
        "1970-01-01T05:00:00.500+05:30".toList := by decide
  have hspelling : Spelling t "1970-01-01T05:00:00.500+05:30".toList :=
    htext ▸ .rfc3339 (Or.inl rfl) hyear hfraction hzone
  have hdenoted : Denoted t value :=
    @Denoted.text t _ [' '] _ ['\n'] (by decide) (List.forall_mem_singleton.mpr rfl)
      (List.forall_mem_singleton.mpr rfl) hspelling
  have hcolumn : schema.columnType? "at" = some .timestamp := by decide
  exact ⟨hdenoted, hcolumn, convert_of_denoted hdenoted hcolumn⟩

end Conversion

end WideColumn
