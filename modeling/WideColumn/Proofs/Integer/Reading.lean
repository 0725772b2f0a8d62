import WideColumn.Integer
import WideColumn.Proofs.Text.Digits

/-! # Reading integers

Which integer a text is, apart from the programs that read it: an optional sign and digits. A word
is read from a text exactly where the text is an integer that has 64 bits, so that nothing is ever
wrapped; an integer of any size is read from every such text. -/

namespace WideColumn.Integer

open Text (InDigits IsNumeral)

/-! ## Texts of an integer -/

/-- What may stand in front of the digits of an integer, with its sign. -/
inductive Sign : Int → List Char → Prop
  | none : Sign 1 []
  | plus : Sign 1 ['+']
  | minus : Sign (-1) ['-']

/-- Whether a text is an integer in digits, behind a sign or without one. -/
inductive Written : Int → List Char → Prop
  | digits {sign : Int} {mark digits : List Char} {n : Nat} (hsign : Sign sign mark)
    (h : InDigits n digits) : Written (sign * n) (mark ++ digits)

/-- Whether a text is the decimal numeral of an integer: only negative ones have a sign, and there
are no zeros in front. -/
inductive Canonical : Int → List Char → Prop
  | natural {n : Nat} {digits : List Char} (h : IsNumeral n digits) : Canonical n digits
  | negative {n : Nat} {digits : List Char} (hn : n ≠ 0) (h : IsNumeral n digits) :
    Canonical (-(n : Int)) ('-' :: digits)

theorem Canonical.written {n : Int} {cs : List Char} (h : Canonical n cs) : Written n cs := by
  cases h with
  | @natural n _ h =>
    rw [← Int.one_mul (n : Int)]
    exact .digits .none h.inDigits
  | @negative n _ _ h =>
    rw [← Int.neg_one_mul (n : Int)]
    exact .digits .minus h.inDigits

theorem canonical_signedNumeral (n : Int) : Canonical n (Text.signedNumeral n) := by
  have hnumeral := Text.isNumeral_numeral n.natAbs
  rw [Text.signedNumeral]
  split
  · have hcanonical := Canonical.negative (by omega) hnumeral
    rwa [show -(n.natAbs : Int) = n by omega] at hcanonical
  · have hcanonical := Canonical.natural hnumeral
    rwa [show (n.natAbs : Int) = n by omega] at hcanonical

/-- There is no white space in an integer. -/
theorem Written.isBlank_of_mem {n : Int} {cs : List Char} (h : Written n cs) :
    ∀ c ∈ cs, Text.isBlank c = false := by
  obtain ⟨hsign, h⟩ := h
  refine List.forall_mem_append.mpr ⟨?_, fun c hc => Text.isBlank_of_isDigit (h.isDigit c hc)⟩
  cases hsign with
  | none => exact List.forall_mem_nil _
  | plus | minus => exact List.forall_mem_singleton.mpr rfl

/-! ## Words -/

/-- Whether an integer has 64 bits. -/
def Fits (n : Int) : Prop := -9223372036854775808 ≤ n ∧ n < 9223372036854775808

instance (n : Int) : Decidable (Fits n) :=
  inferInstanceAs (Decidable (-9223372036854775808 ≤ n ∧ n < 9223372036854775808))

theorem fits_toInt (w : Int64) : Fits w.toInt := ⟨w.le_toInt, w.toInt_lt⟩

/-- The integers of 64 bits are those of words. -/
theorem exists_toInt_eq {n : Int} (h : Fits n) : ∃ w : Int64, w.toInt = n :=
  ⟨.ofInt n, Int64.toInt_ofInt_of_le h.1 h.2⟩

/-- Appends digits to a number, while with its sign it has 64 bits. -/
def readSigned (sign : Int) (outside : ReadFault) (n : Nat) : List Char → Except ReadFault Int64
  | [] => .ok (Int64.ofInt (sign * n))
  | c :: rest =>
    match Text.digitValue? c with
    | none => .error .invalidDigit
    | some d =>
      if Fits (sign * (10 * n + d : Nat)) then readSigned sign outside (10 * n + d) rest
      else .error outside

theorem readUp_eq (digits : List Char) (n : Nat) :
    readUp n digits = readSigned 1 .tooLarge n digits := by
  induction digits generalizing n with
  | nil => rw [readUp, readSigned, Int.one_mul]
  | cons c rest ih =>
    rw [readUp, readSigned]
    cases Text.digitValue? c with
    | none => rfl
    | some d =>
      have hnext : 10 * (n : Int) + d = (10 * n + d : Nat) := by omega
      have hfits : ((10 * n + d : Nat) : Int) < 9223372036854775808 ↔
          Fits (1 * (10 * n + d : Nat)) := by
        unfold Fits
        omega
      simp only [hnext, hfits, ih]

theorem readDown_eq (digits : List Char) (n : Nat) :
    readDown (-n) digits = readSigned (-1) .tooSmall n digits := by
  induction digits generalizing n with
  | nil => rw [readDown, readSigned, Int.neg_one_mul]
  | cons c rest ih =>
    rw [readDown, readSigned]
    cases Text.digitValue? c with
    | none => rfl
    | some d =>
      have hnext : 10 * -(n : Int) - d = -((10 * n + d : Nat) : Int) := by omega
      have hfits : -9223372036854775808 ≤ -((10 * n + d : Nat) : Int) ↔
          Fits (-1 * (10 * n + d : Nat)) := by
        unfold Fits
        omega
      simp only [hnext, hfits, ih]

/-- A number only grows when digits are appended to it. -/
theorem le_ofDigitChars (digits : List Char) (n : Nat) : n ≤ Nat.ofDigitChars 10 digits n := by
  induction digits generalizing n with
  | nil => exact Nat.le_refl n
  | cons c rest ih =>
    rw [Nat.ofDigitChars_cons]
    have hrest := ih (10 * n + (c.toNat - '0'.toNat))
    omega

/-- **Digits are read exactly where they are digits of a number that fits.** The number only grows
with them, so what fits at the end has fitted all the time. -/
theorem readSigned_eq_ok_iff {sign : Int} (hsign : sign = 1 ∨ sign = -1) (outside : ReadFault)
    {digits : List Char} {w : Int64} : ∀ {n : Nat}, Fits (sign * n) →
      (readSigned sign outside n digits = .ok w ↔ (∀ c ∈ digits, c.isDigit = true) ∧
        w.toInt = sign * (Nat.ofDigitChars 10 digits n : Nat)) := by
  induction digits with
  | nil =>
    intro n hn
    have hword : (Int64.ofInt (sign * n)).toInt = sign * n := Int64.toInt_ofInt_of_le hn.1 hn.2
    rw [readSigned, Nat.ofDigitChars_nil]
    constructor
    · intro h
      cases h
      exact ⟨List.forall_mem_nil _, hword⟩
    · rintro ⟨-, h⟩
      exact congrArg Except.ok (Int64.toInt_inj.mp (hword.trans h.symm))
  | cons c rest ih =>
    intro n hn
    rw [readSigned, List.forall_mem_cons, Nat.ofDigitChars_cons]
    by_cases hc : c.isDigit = true
    · rw [Text.digitValue?_of_isDigit hc]
      simp only [hc, true_and]
      have hgrow := le_ofDigitChars rest (10 * n + (c.toNat - '0'.toNat))
      split
      · next hfits => exact ih hfits
      · next hfits =>
        have hword := fits_toInt w
        constructor
        · intro h
          cases h
        · rintro ⟨-, h⟩
          unfold Fits at hfits hword
          rcases hsign with rfl | rfl <;> omega
    · rw [Text.digitValue?_eq_none hc]
      constructor
      · intro h
        cases h
      · rintro ⟨⟨h, -⟩, -⟩
        exact absurd h hc

/-- A word is read from digits behind a sign. -/
theorem exists_of_readInt64 {cs : List Char} {w : Int64} (h : readInt64 cs = .ok w) :
    ∃ sign mark digits outside, Sign sign mark ∧ cs = mark ++ digits ∧ digits ≠ [] ∧
      readSigned sign outside 0 digits = .ok w := by
  unfold readInt64 at h
  split at h
  · cases h
  · cases h
  · cases h
  · next digits hne =>
    refine ⟨1, ['+'], digits, .tooLarge, .plus, rfl, hne, ?_⟩
    rw [← readUp_eq]
    exact h
  · next digits hne =>
    refine ⟨-1, ['-'], digits, .tooSmall, .minus, rfl, hne, ?_⟩
    rw [← readDown_eq]
    exact h
  · next hne _ _ _ _ =>
    refine ⟨1, [], cs, .tooLarge, .none, rfl, hne, ?_⟩
    rw [← readUp_eq]
    exact h

/-- Digits behind a sign are read with the sign. -/
theorem exists_readInt64_eq {sign : Int} {mark digits : List Char} {n : Nat}
    (hsign : Sign sign mark) (h : InDigits n digits) :
    ∃ outside, readInt64 (mark ++ digits) = readSigned sign outside 0 digits := by
  cases hsign with
  | plus =>
    refine ⟨.tooLarge, ?_⟩
    rw [List.singleton_append, readInt64, ← readUp_eq]
    · rfl
    · exact h.ne_nil
  | minus =>
    refine ⟨.tooSmall, ?_⟩
    rw [List.singleton_append, readInt64, ← readDown_eq]
    · rfl
    · exact h.ne_nil
  | none =>
    -- The last equation of the reader is for texts that begin with no sign.
    refine ⟨.tooLarge, ?_⟩
    rw [List.nil_append, readInt64, ← readUp_eq]
    · rfl
    · exact h.ne_nil
    · exact h.ne_cons rfl []
    · exact h.ne_cons rfl []
    · exact h.ne_cons rfl
    · exact h.ne_cons rfl

theorem Sign.eq_or {sign : Int} {mark : List Char} (h : Sign sign mark) : sign = 1 ∨ sign = -1 := by
  cases h with
  | none | plus => exact Or.inl rfl
  | minus => exact Or.inr rfl

/-- **A word is read from a text exactly where the text is the integer of the word.** -/
theorem readInt64_eq_ok_iff {cs : List Char} {w : Int64} :
    readInt64 cs = .ok w ↔ Written w.toInt cs := by
  have hzero : ∀ sign : Int, Fits (sign * (0 : Nat)) := by
    intro sign
    rw [Int.natCast_zero, Int.mul_zero]
    decide
  constructor
  · intro h
    obtain ⟨sign, mark, digits, outside, hsign, rfl, hne, hread⟩ := exists_of_readInt64 h
    obtain ⟨hdigits, hvalue⟩ := (readSigned_eq_ok_iff hsign.eq_or outside (hzero sign)).mp hread
    rw [hvalue]
    exact .digits hsign ⟨hne, hdigits, rfl⟩
  · intro h
    generalize hn : w.toInt = n at h
    obtain ⟨hsign, h⟩ := h
    obtain ⟨outside, hread⟩ := exists_readInt64_eq hsign h
    rw [hread, readSigned_eq_ok_iff hsign.eq_or outside (hzero _)]
    refine ⟨h.isDigit, ?_⟩
    rw [hn, ← h.value_eq]
    rfl

/-! ## Integers of any size -/

/-- Digits are appended to the number in front of them. -/
theorem readDigits_of_isDigit {digits : List Char} (h : ∀ c ∈ digits, c.isDigit = true) (n : Nat) :
    readDigits n digits = .ok (Nat.ofDigitChars 10 digits n) := by
  induction digits generalizing n with
  | nil => rfl
  | cons c rest ih =>
    have hc : c.isDigit = true := h c List.mem_cons_self
    have hunderscore : c ≠ '_' := by
      rintro rfl
      cases hc
    rw [readDigits, if_neg hunderscore, Text.digitValue?_of_isDigit hc, Nat.ofDigitChars_cons]
    exact ih (fun d hd => h d (List.mem_cons_of_mem c hd)) _

/-- Digits are read as the number that they denote, also behind a plus sign. -/
theorem readNat_append {mark digits : List Char} (hmark : mark = [] ∨ mark = ['+']) {n : Nat}
    (h : InDigits n digits) : readNat (mark ++ digits) = .ok n := by
  have hread := readDigits_of_isDigit h.isDigit 0
  rw [← Text.digitsValue, h.value_eq] at hread
  cases digits with
  | nil => exact absurd rfl h.ne_nil
  | cons c rest =>
    -- The first digit is neither a sign nor an underscore.
    have hplus : c ≠ '+' := fun heq => h.ne_cons rfl rest (congrArg (· :: rest) heq)
    have hunderscore : c ≠ '_' := fun heq => h.ne_cons rfl rest (congrArg (· :: rest) heq)
    have heq : readNat (mark ++ c :: rest) = readDigits 0 (c :: rest) := by
      rcases hmark with rfl | rfl <;> simp [readNat, hplus, hunderscore]
    rw [heq]
    exact hread

/-- **An integer of any size is read from every text of it.** -/
theorem readInt_of_written {n : Int} {cs : List Char} (h : Written n cs) : readInt cs = .ok n := by
  obtain @⟨sign, mark, digits, m, hsign, h⟩ := h
  cases hsign with
  | minus =>
    have hread := @readNat_append [] digits (Or.inl rfl) m h
    rw [List.nil_append] at hread
    rw [List.singleton_append, readInt, hread, Int.neg_one_mul]
    · rfl
    · exact h.ne_cons rfl
  | plus =>
    rw [readInt]
    · rw [readNat_append (Or.inr rfl) h, Int.one_mul]
      rfl
    all_goals exact fun rest heq => nomatch heq
  | none =>
    rw [readInt]
    · rw [readNat_append (Or.inl rfl) h, Int.one_mul]
      rfl
    · exact fun rest => h.ne_cons rfl _
    · exact h.ne_cons rfl

theorem readInt_signedNumeral (n : Int) : readInt (Text.signedNumeral n) = .ok n :=
  readInt_of_written (canonical_signedNumeral n).written

theorem isBlank_of_mem_signedNumeral {n : Int} {c : Char} (h : c ∈ Text.signedNumeral n) :
    Text.isBlank c = false := (canonical_signedNumeral n).written.isBlank_of_mem c h

end WideColumn.Integer
