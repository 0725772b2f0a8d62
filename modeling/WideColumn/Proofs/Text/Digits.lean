import Mathlib.Algebra.Order.Ring.Nat
import WideColumn.Text.Blank
import WideColumn.Text.Bytes
import WideColumn.Text.Hex
import WideColumn.Text.Reader

/-! # Reading digits

Digits that have been written are read as the number that they stand for, whatever text follows that
does not go on with a digit; and text without white space is left alone by trimming. -/

namespace WideColumn.Text

/-! ## Kinds of characters -/

/-- Whether a text does not go on with a character of a kind. -/
def Stops (p : Char → Bool) (rest : List Char) : Prop := ∀ c ∈ rest.head?, p c = false

theorem stops_nil (p : Char → Bool) : Stops p [] := by simp [Stops]

@[simp] theorem stops_cons {p : Char → Bool} {c : Char} {rest : List Char} :
    Stops p (c :: rest) ↔ p c = false := by simp [Stops]

/-- Where a kind of characters stops there is none to leave out. -/
theorem dropWhile_of_stops {p : Char → Bool} {rest : List Char} (h : Stops p rest) :
    rest.dropWhile p = rest := by
  cases rest with
  | nil => rfl
  | cons c rest => rw [List.dropWhile_cons, stops_cons.mp h, if_neg Bool.false_ne_true]

/-- Where a kind of characters stops there is none to take. -/
theorem takeWhile_of_stops {p : Char → Bool} {rest : List Char} (h : Stops p rest) :
    rest.takeWhile p = [] := by
  cases rest with
  | nil => rfl
  | cons c rest => rw [List.takeWhile_cons, stops_cons.mp h, if_neg Bool.false_ne_true]

/-- The longest run of a kind of characters ends where they stop. -/
theorem takeWhile_append {p : Char → Bool} {cs rest : List Char} (h : ∀ c ∈ cs, p c = true)
    (hrest : Stops p rest) : (cs ++ rest).takeWhile p = cs := by
  rw [List.takeWhile_append_of_pos h, takeWhile_of_stops hrest, List.append_nil]

/-! ## White space -/

/-- A text without white space is trimmed already. -/
theorem trim_eq_self {cs : List Char} (h : ∀ c ∈ cs, isBlank c = false) : trim cs = cs := by
  have hfront : Stops isBlank cs := fun c hc => h c (List.mem_of_mem_head? hc)
  have hback : Stops isBlank cs.reverse := fun c hc =>
    h c (List.mem_reverse.mp (List.mem_of_mem_head? hc))
  rw [trim, trimStart, trimEnd, dropWhile_of_stops hfront, dropWhile_of_stops hback,
    List.reverse_reverse]

/-- Between the space and the end of ASCII there is no white space. -/
theorem isBlank_eq_false {c : Char} (low : 0x20 < c.toNat) (high : c.toNat < 0x80) :
    isBlank c = false := by
  simp only [isBlank, blankRanges, List.any_cons, List.any_nil, Bool.or_eq_false_iff,
    Bool.and_eq_false_iff, decide_eq_false_iff_not, Bool.or_false]
  omega

/-- A text can be tested for white space. -/
theorem isBlank_eq_false_of_all {cs : List Char} (h : cs.all (fun c => !isBlank c) = true) :
    ∀ c ∈ cs, isBlank c = false := by
  intro c hc
  rw [← Bool.not_eq_true']
  exact List.all_eq_true.mp h c hc

/-- A text of ASCII characters has a byte for each of them. -/
theorem byteLength_eq_length {cs : List Char} (h : ∀ c ∈ cs, c.toNat < 0x80) :
    byteLength cs = cs.length := by
  induction cs with
  | nil => rfl
  | cons c rest ih =>
    have hc : c.utf8Size = 1 := by
      rw [Char.utf8Size_eq_one_iff]
      exact Nat.le_of_lt_succ (h c List.mem_cons_self)
    rw [byteLength_cons, hc, ih fun d hd => h d (List.mem_cons_of_mem c hd), List.length_cons,
      Nat.add_comm]

/-! ## Digits -/

theorem isDigit_of_mem_numeral {n : Nat} {c : Char} (h : c ∈ numeral n) : c.isDigit = true :=
  Nat.isDigit_of_mem_toDigits (by decide) (Nat.le_refl 10) h

theorem isDigit_of_mem_paddedNumeral {width n : Nat} {c : Char} (h : c ∈ paddedNumeral width n) :
    c.isDigit = true := by
  rcases List.mem_append.mp h with h | h
  · rw [List.eq_of_mem_replicate h]
    rfl
  · exact isDigit_of_mem_numeral h

@[simp] theorem digitsValue_numeral (n : Nat) : digitsValue (numeral n) = n :=
  Nat.ofDigitChars_ten_toDigits

/-- Leading zeros do not count. -/
@[simp] theorem digitsValue_paddedNumeral (width n : Nat) :
    digitsValue (paddedNumeral width n) = n := by
  rw [digitsValue, paddedNumeral, Nat.ofDigitChars_append, Nat.ofDigitChars_replicate_zero,
    Nat.mul_zero]
  exact digitsValue_numeral n

theorem toList_ofNat (n : Nat) : (ofNat n).toList = numeral n := String.toList_ofList

theorem numeral_ne_nil (n : Nat) : numeral n ≠ [] := Nat.toDigits_ne_nil

theorem paddedNumeral_ne_nil (width n : Nat) : paddedNumeral width n ≠ [] :=
  List.append_ne_nil_of_right_ne_nil _ (numeral_ne_nil n)

/-- Only zero begins with the digit zero. -/
theorem head?_numeral_ne {n : Nat} (h : n ≠ 0) : (numeral n).head? ≠ some '0' := by
  induction n using Nat.strongRecOn with
  | ind n ih =>
    rw [numeral, Nat.toDigits_eq_if (by decide)]
    split
    · next hlt =>
      rw [List.head?_cons, ne_eq, Option.some.injEq, Nat.digitChar_eq_zero]
      exact h
    · next hge =>
      rw [List.head?_append, Option.or_of_isSome]
      · exact ih (n / 10) (by omega) (by omega)
      · exact List.isSome_head?.mpr Nat.toDigits_ne_nil

/-- Whether a text consists of decimal digits that denote a number. There may be zeros in front. -/
structure InDigits (n : Nat) (digits : List Char) : Prop where
  ne_nil : digits ≠ []
  isDigit : ∀ c ∈ digits, c.isDigit = true
  value_eq : digitsValue digits = n

/-- Digits do not begin with any other character. -/
theorem InDigits.ne_cons {n : Nat} {digits : List Char} (h : InDigits n digits) {c : Char}
    (hc : c.isDigit = false) (rest : List Char) : digits ≠ c :: rest := by
  rintro rfl
  rw [h.isDigit c List.mem_cons_self] at hc
  cases hc

/-- Whether digits are the decimal numeral of a number. -/
structure IsNumeral (n : Nat) (digits : List Char) : Prop where
  ne_nil : digits ≠ []
  isDigit : ∀ c ∈ digits, c.isDigit = true
  value_eq : digitsValue digits = n
  /-- Only the numeral of zero begins with the digit zero. -/
  canonical : digits.head? = some '0' → digits = ['0']

theorem IsNumeral.inDigits {n : Nat} {digits : List Char} (h : IsNumeral n digits) :
    InDigits n digits := ⟨h.ne_nil, h.isDigit, h.value_eq⟩

theorem isNumeral_numeral (n : Nat) : IsNumeral n (numeral n) where
  ne_nil := numeral_ne_nil n
  isDigit _ := isDigit_of_mem_numeral
  value_eq := digitsValue_numeral n
  canonical hhead := by
    by_cases h : n = 0
    · rw [h]
      rfl
    · exact absurd hhead (head?_numeral_ne h)

theorem length_numeral_le {n width : Nat} (positive : 0 < width) (h : n < 10 ^ width) :
    (numeral n).length ≤ width :=
  (Nat.length_toDigits_le_iff (by decide) positive).mpr h

/-- A number that fits has exactly the width asked for. -/
theorem length_paddedNumeral {n width : Nat} (positive : 0 < width) (h : n < 10 ^ width) :
    (paddedNumeral width n).length = width := by
  have hle := length_numeral_le positive h
  rw [paddedNumeral, List.length_append, List.length_replicate]
  omega

theorem toNat_of_isDigit {c : Char} (h : c.isDigit = true) : 48 ≤ c.toNat ∧ c.toNat ≤ 57 := by
  simp only [Char.isDigit, Bool.and_eq_true, decide_eq_true_eq] at h
  exact h

theorem isBlank_of_isDigit {c : Char} (h : c.isDigit = true) : isBlank c = false := by
  have hrange := toNat_of_isDigit h
  exact isBlank_eq_false (by omega) (by omega)

theorem isBlank_of_mem_paddedNumeral {width n : Nat} :
    ∀ c ∈ paddedNumeral width n, isBlank c = false :=
  fun _ hc => isBlank_of_isDigit (isDigit_of_mem_paddedNumeral hc)

theorem digitValue?_of_isDigit {c : Char} (h : c.isDigit = true) :
    digitValue? c = some (c.toNat - '0'.toNat) := if_pos (toNat_of_isDigit h)

theorem digitValue?_eq_none {c : Char} (h : ¬c.isDigit = true) : digitValue? c = none := by
  refine if_neg ?_
  rintro ⟨hlow, hhigh⟩
  apply h
  rw [Char.isDigit, Bool.and_eq_true, decide_eq_true_eq, decide_eq_true_eq]
  exact ⟨hlow, hhigh⟩

/-! ## Hexadecimal digits -/

theorem hexValue?_digitChar {n : Nat} (h : n < 16) : hexValue? n.digitChar = some n := by
  have hall : ∀ m < 16, hexValue? m.digitChar = some m := by decide
  exact hall n h

/-- Whether a character is a hexadecimal digit of either case. -/
def isHexDigit (c : Char) : Bool := (hexValue? c).isSome

/-- Hexadecimal digits are ASCII characters behind the space. -/
theorem toNat_of_isHexDigit {c : Char} (h : isHexDigit c = true) :
    0x20 < c.toNat ∧ c.toNat < 0x80 := by
  have between : ∀ {low high : Char}, low ≤ c ∧ c ≤ high → 0x20 < low.toNat → high.toNat < 0x80 →
      0x20 < c.toNat ∧ c.toNat < 0x80 :=
    fun hrange hlow hhigh => ⟨Nat.lt_of_lt_of_le hlow hrange.1, Nat.lt_of_le_of_lt hrange.2 hhigh⟩
  simp only [isHexDigit, hexValue?] at h
  split at h
  · next hdigit => exact between hdigit (by decide) (by decide)
  split at h
  · next hlower => exact between hlower (by decide) (by decide)
  split at h
  · next hupper => exact between hupper (by decide) (by decide)
  · cases h

theorem isBlank_of_isHexDigit {c : Char} (h : isHexDigit c = true) : isBlank c = false :=
  isBlank_eq_false (toNat_of_isHexDigit h).1 (toNat_of_isHexDigit h).2

theorem isHexDigit_of_mem_toDigits {n : Nat} {c : Char} (h : c ∈ Nat.toDigits 16 n) :
    isHexDigit c = true := by
  induction n using Nat.strongRecOn with
  | ind n ih =>
    rw [Nat.toDigits_eq_if (by decide)] at h
    split at h
    · next hlt =>
      rw [List.mem_singleton.mp h, isHexDigit, hexValue?_digitChar hlt]
      rfl
    · next hge =>
      rcases List.mem_append.mp h with h | h
      · exact ih (n / 16) (by omega) h
      · rw [List.mem_singleton.mp h, isHexDigit, hexValue?_digitChar (by omega)]
        rfl

theorem hexNumber?_append (cs : List Char) (c : Char) :
    hexNumber? (cs ++ [c]) = (hexNumber? cs).bind fun n => (hexValue? c).map (16 * n + ·) := by
  simp [hexNumber?, List.foldlM_append]

/-- A number in hexadecimal digits is read as the number. -/
theorem hexNumber?_toDigits (n : Nat) : hexNumber? (Nat.toDigits 16 n) = some n := by
  induction n using Nat.strongRecOn with
  | ind n ih =>
    rw [Nat.toDigits_eq_if (by decide)]
    split
    · next hlt => simp [hexNumber?, hexValue?_digitChar hlt]
    · next hge =>
      rw [hexNumber?_append, ih (n / 16) (by omega), hexValue?_digitChar (by omega)]
      exact congrArg some (show 16 * (n / 16) + n % 16 = n by omega)

@[simp] theorem length_hex (bytes : List UInt8) : (hex bytes).length = 2 * bytes.length := by
  induction bytes with
  | nil => rfl
  | cons b rest ih =>
    rw [hex_cons, List.length_append, ih]
    simp only [byteHex, List.length_cons, List.length_nil]
    omega

theorem hex_append (front back : List UInt8) : hex (front ++ back) = hex front ++ hex back :=
  List.flatMap_append

/-! ## Reading steps -/

namespace Reader

variable {α β : Type} {read : Reader α} {cs rest : List Char} {x : α}

/-- A step goes on where the one before it left off. -/
theorem bind_of_eq_some (h : read cs = some (x, rest)) (next : α → Reader β) :
    (read >>= next) cs = next x rest := by
  show (read cs).bind _ = _
  rw [h]
  rfl

/-- A step that fails ends the reading. -/
theorem bind_of_eq_none (h : read cs = none) (next : α → Reader β) :
    (read >>= next) cs = none := by
  show (read cs).bind _ = _
  rw [h]
  rfl

/-- A result that does not come from the text leaves the text alone. -/
theorem lift_eq (result : Option α) (cs : List Char) :
    (liftM result : Reader α) cs = result.map fun x => (x, cs) := by
  cases result <;> rfl

theorem char_append (c : Char) (rest : List Char) : char c (c :: rest) = some ((), rest) :=
  if_pos rfl

/-- A step that takes everything gives its result. -/
theorem whole_of_eq_some (h : read cs = some (x, [])) : whole read cs = some x := by
  show ((read >>= _) cs).map _ = _
  rw [bind_of_eq_some h]
  rfl

/-- A step that fails does so on the whole text, too. -/
theorem whole_of_eq_none (h : read cs = none) : whole read cs = none := by
  show ((read >>= _) cs).map _ = _
  rw [bind_of_eq_none h]
  rfl

/-- A given number of digits is read, whatever follows. -/
theorem digits_append {ds : List Char} {least : Nat} (h : ∀ c ∈ ds, c.isDigit = true)
    (hleast : least ≤ ds.length) : digits least ds.length (ds ++ rest) = some (ds, rest) := by
  have hfound : ((ds ++ rest).take ds.length).takeWhile Char.isDigit = ds := by
    rw [List.take_left]
    simpa only [List.append_nil] using takeWhile_append h (stops_nil Char.isDigit)
  simp only [digits]
  rw [hfound, if_pos hleast, List.drop_left]

/-- Digits up to where they stop are read, if there are not too many. -/
theorem digits_append_of_stops {ds : List Char} {least most : Nat}
    (h : ∀ c ∈ ds, c.isDigit = true) (hrest : Stops Char.isDigit rest) (hleast : least ≤ ds.length)
    (hmost : ds.length ≤ most) : digits least most (ds ++ rest) = some (ds, rest) := by
  have hfound : ((ds ++ rest).take most).takeWhile Char.isDigit = ds := by
    rw [List.take_append, List.take_of_length_le hmost]
    refine takeWhile_append h ?_
    intro c hc
    cases rest with
    | nil => simp at hc
    | cons d rest =>
      cases hcount : most - ds.length with
      | zero => simp [hcount] at hc
      | succ count =>
        rw [hcount, List.take_succ_cons, List.head?_cons, Option.mem_some_iff] at hc
        rw [← hc]
        exact stops_cons.mp hrest
  simp only [digits]
  rw [hfound, if_pos hleast, List.drop_left]

/-- A number of fixed width is read, whatever follows. -/
theorem number_paddedNumeral {least width n : Nat} (positive : 0 < width) (hleast : least ≤ width)
    (h : n < 10 ^ width) (rest : List Char) :
    number least width (paddedNumeral width n ++ rest) = some (n, rest) := by
  have hlength := length_paddedNumeral positive h
  have hpadded : ∀ c ∈ paddedNumeral width n, c.isDigit = true := fun c =>
    isDigit_of_mem_paddedNumeral
  have hdigits : digits least width (paddedNumeral width n ++ rest) =
      some (paddedNumeral width n, rest) := by
    have hread := @digits_append rest _ least hpadded (by omega)
    rwa [hlength] at hread
  rw [number, bind_of_eq_some hdigits]
  exact congrArg (fun m => some (m, rest)) (digitsValue_paddedNumeral width n)

end Reader

end WideColumn.Text
