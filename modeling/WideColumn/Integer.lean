import WideColumn.Text.Numeral

/-! # Integers
Integers that fit in a word, and reading integers from text. A word is read digit by digit and
refuses the first digit that makes it leave its range; an integer of any size also takes underscores
between its digits. -/

namespace WideColumn.Integer

/-- The 32-bit word of an integer that fits in one. -/
def toInt32? (n : Int) : Option Int32 :=
  if -2147483648 ≤ n ∧ n < 2147483648 then some (Int32.ofInt n) else none

/-- The 64-bit word of an integer that fits in one. -/
def toInt64? (n : Int) : Option Int64 :=
  if -9223372036854775808 ≤ n ∧ n < 9223372036854775808 then some (Int64.ofInt n) else none

theorem toInt32?_eq_some {n : Int} {w : Int32} : toInt32? n = some w ↔ w.toInt = n := by
  unfold toInt32?
  constructor
  · intro h
    split at h
    · rename_i range
      rw [← Option.some.inj h]
      exact Int32.toInt_ofInt_of_le (by omega) (by omega)
    · simp at h
  · rintro rfl
    rw [if_pos ⟨w.le_toInt, w.toInt_lt⟩, Int32.ofInt_toInt]

theorem toInt64?_eq_some {n : Int} {w : Int64} : toInt64? n = some w ↔ w.toInt = n := by
  unfold toInt64?
  constructor
  · intro h
    split at h
    · rename_i range
      rw [← Option.some.inj h]
      exact Int64.toInt_ofInt_of_le (by omega) (by omega)
    · simp at h
  · rintro rfl
    rw [if_pos ⟨w.le_toInt, w.toInt_lt⟩, Int64.ofInt_toInt]

@[simp] theorem toInt32?_toInt (w : Int32) : toInt32? w.toInt = some w := toInt32?_eq_some.2 rfl

@[simp] theorem toInt64?_toInt (w : Int64) : toInt64? w.toInt = some w := toInt64?_eq_some.2 rfl

/-- Why a text is no integer. -/
inductive ReadFault
  /-- There is no digit and no other character. -/
  | empty
  /-- A character is no digit. -/
  | invalidDigit
  /-- The integer is above the range of the word. -/
  | tooLarge
  /-- The integer is below the range of the word. -/
  | tooSmall

/-- The wording of a fault. -/
def ReadFault.message : ReadFault → String
  | .empty => "cannot parse integer from empty string"
  | .invalidDigit => "invalid digit found in string"
  | .tooLarge => "number too large to fit in target type"
  | .tooSmall => "number too small to fit in target type"

/-- Appends digits to a number that is not negative, while it fits in 64 bits. -/
def readUp (n : Int) : List Char → Except ReadFault Int64
  | [] => .ok (Int64.ofInt n)
  | c :: rest =>
    match Text.digitValue? c with
    | none => .error .invalidDigit
    | some d =>
      if 10 * n + d < 9223372036854775808 then readUp (10 * n + d) rest else .error .tooLarge

/-- Appends digits to a number that is not positive, while it fits in 64 bits. -/
def readDown (n : Int) : List Char → Except ReadFault Int64
  | [] => .ok (Int64.ofInt n)
  | c :: rest =>
    match Text.digitValue? c with
    | none => .error .invalidDigit
    | some d =>
      if -9223372036854775808 ≤ 10 * n - d then readDown (10 * n - d) rest else .error .tooSmall

/-- The 64-bit integer that a text denotes: an optional sign and at least one digit. -/
def readInt64 : List Char → Except ReadFault Int64
  | [] => .error .empty
  | ['+'] | ['-'] => .error .invalidDigit
  | '+' :: digits => readUp 0 digits
  | '-' :: digits => readDown 0 digits
  | digits => readUp 0 digits

/-- Appends digits to a number, passing over underscores. -/
def readDigits (n : Nat) : List Char → Except ReadFault Nat
  | [] => .ok n
  | c :: rest =>
    if c = '_' then readDigits n rest
    else
      match Text.digitValue? c with
      | none => .error .invalidDigit
      | some d => readDigits (10 * n + d) rest

/-- A natural number of any size: an optional plus sign, and digits that may have underscores
between them and behind them. -/
def readNat (cs : List Char) : Except ReadFault Nat :=
  let digits :=
    match cs with
    | '+' :: '+' :: _ => cs
    | '+' :: rest => rest
    | _ => cs
  match digits with
  | [] => .error .empty
  | '_' :: _ => .error .invalidDigit
  | _ => readDigits 0 digits

/-- The integer of any size that a text denotes: an optional sign and digits that may have
underscores between them and behind them. -/
def readInt : List Char → Except ReadFault Int
  | '-' :: '+' :: _ => .error .invalidDigit
  | '-' :: rest => (readNat rest).map fun n => -(n : Int)
  | cs => (readNat cs).map fun n => (n : Int)

end WideColumn.Integer
