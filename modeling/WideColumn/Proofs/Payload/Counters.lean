import WideColumn.Proofs.Payload.Grammar

/-! # Counters

An UPDATE changes a counter by an item that adds a numeral to the column or subtracts one from it.
The sign of the amount is told by the operation, never by the numeral, so that the least amount,
whose negation has no word, is written like any other. What items do to a counter is read off
their text alone. -/

namespace WideColumn.Counter

open Text (IsNumeral trimEnd)

/-! ## Items and what they do -/

/-- The texts behind a column that change it by an amount. -/
inductive Delta : String → Int → Prop
  | plus {n : Nat} {digits : String} (h : IsNumeral n digits.toList) : Delta (" + " ++ digits) n
  | minus {n : Nat} {digits : String} (h : IsNumeral n digits.toList) :
    Delta (" - " ++ digits) (-(n : Int))

/-- Whether an item sets a column to itself, changed by an amount. -/
def Changes (column item : String) (amount : Int) : Prop :=
  ∃ fragment, item = column ++ " = " ++ column ++ fragment ∧ Delta fragment amount

/-- What items make of the value of a column, one after the other. -/
inductive Runs (column : String) : List String → Int → Int → Prop
  | nil (value : Int) : Runs column [] value value
  | cons {item : String} {items : List String} {amount before after : Int}
    (h : Changes column item amount) (rest : Runs column items (before + amount) after) :
    Runs column (item :: items) before after

namespace Delta

variable {fragment : String} {amount : Int}

theorem eq_of_append {sign digits digits' : String} {n n' : Nat}
    (h : IsNumeral n digits.toList) (h' : IsNumeral n' digits'.toList)
    (heq : sign ++ digits = sign ++ digits') : n = n' := by
  have hdigits : digits.toList = digits'.toList := by
    have hlists := congrArg String.toList heq
    rw [String.toList_append, String.toList_append] at hlists
    exact List.append_cancel_left hlists
  rw [← h.value_eq, ← h'.value_eq, hdigits]

/-- A text has one amount only. -/
theorem unique {amount' : Int} (h : Delta fragment amount) (h' : Delta fragment amount') :
    amount = amount' := by
  -- The second character of a text tells the sign.
  have hsign : ∀ digits digits' : String, " + " ++ digits ≠ " - " ++ digits' := by
    intro digits digits' heq
    have hlists := congrArg String.toList heq
    simp at hlists
  generalize hother : fragment = other at h'
  cases h with
  | plus h =>
    cases h' with
    | plus h' => rw [eq_of_append h h' hother]
    | minus h' => exact absurd hother (hsign _ _)
  | minus h =>
    cases h' with
    | plus h' => exact absurd hother.symm (hsign _ _)
    | minus h' => rw [eq_of_append h h' hother]

/-- Nothing is trimmed off a text that ends in it. -/
theorem trimEnd_append (h : Delta fragment amount) (cs : List Char) :
    trimEnd (cs ++ fragment.toList) = cs ++ fragment.toList := by
  cases h with
  | plus h | minus h =>
    rw [String.toList_append, ← List.append_assoc,
      Text.trimEnd_append_of_ne_nil (by rw [h.trimEnd_eq]; exact h.ne_nil), h.trimEnd_eq]

end Delta

theorem Changes.unique {column item : String} {amount amount' : Int}
    (h : Changes column item amount) (h' : Changes column item amount') : amount = amount' := by
  obtain ⟨fragment, hitem, h⟩ := h
  obtain ⟨fragment', hitem', h'⟩ := h'
  have hfragment : fragment = fragment' := by
    have hlists := congrArg String.toList (hitem.symm.trans hitem')
    rw [String.toList_append, String.toList_append (t := fragment')] at hlists
    exact String.toList_inj.mp (List.append_cancel_left hlists)
  exact h.unique (hfragment ▸ h')

/-- A statement made into an UPDATE with given entries. -/
def update (s : Statement) (entries : List (String × Assignment)) : Statement :=
  { s with operation := .update, payload := some ⟨entries⟩ }

/-- The least word is subtracted by an addition. -/
example : Payload.itemText .update ("visits", .subtract Int64.minValue) =
    "visits = visits + 9223372036854775808" := by
  decide +kernel

end WideColumn.Counter
