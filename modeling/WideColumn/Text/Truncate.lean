/-! # Truncated text
A text cut to a number of bytes of its UTF-8 form, never inside a character. -/

namespace WideColumn.Text

/-- Whether a place, counted in bytes, is an end of a text or stands between two of its characters.
-/
def isBoundary (text : String) (place : Nat) : Bool := String.Pos.Raw.isValid text ⟨place⟩

theorem isBoundary_zero (text : String) : isBoundary text 0 = true :=
  String.Pos.Raw.isValid_eq_true_iff.mpr String.Pos.Raw.isValid_zero

/-- The last boundary that is not behind a place, looked for byte by byte on the way back. -/
def lastBoundary (text : String) : Nat → Nat
  | 0 => 0
  | place + 1 => if isBoundary text (place + 1) then place + 1 else lastBoundary text place

theorem isBoundary_lastBoundary (text : String) (place : Nat) :
    isBoundary text (lastBoundary text place) = true := by
  fun_induction lastBoundary text place with
  | case1 => exact isBoundary_zero text
  | case2 place h => exact h
  | case3 place h ih => exact ih

/-- The text in front of a place. A place that is no boundary has none. -/
def before? (text : String) (place : Nat) : Option String :=
  if h : isBoundary text place = true then
    some (text.sliceTo (text.pos ⟨place⟩ (String.Pos.Raw.isValid_eq_true_iff.mp h))).copy
  else none

theorem isSome_before? (text : String) (place : Nat) :
    (before? text place).isSome = isBoundary text place := by
  rw [before?]
  split
  · next h => exact h.symm
  · next h => exact (eq_false_of_ne_true h).symm

/-- The text in front of the last boundary is there, so that a cut is never inside a character. -/
theorem isSome_before?_lastBoundary (text : String) (place : Nat) :
    (before? text (lastBoundary text place)).isSome = true := by
  rw [isSome_before?, isBoundary_lastBoundary]

/-- A text within a limit of bytes: a longer one is cut at the last boundary within the limit, and
three dots mark the cut. Without a limit every text stays whole. -/
def truncate (limit : Option Nat) (text : String) : String :=
  match limit with
  | none => text
  | some room =>
    if text.utf8ByteSize ≤ room then text
    else
      (before? text (lastBoundary text room)).get (isSome_before?_lastBoundary text room) ++ "..."

@[simp] theorem truncate_none (text : String) : truncate none text = text := rfl

end WideColumn.Text
