import WideColumn.Binary.Number

/-! # Widening and narrowing

A single-precision number is a double-precision number as it stands, so that widening loses nothing
and narrowing the result gives the number back. -/

namespace WideColumn.Binary

/-- Double precision has the numbers of single precision. -/
theorem Format.Holds.of_single {value : Dyadic} (h : single.Holds value) : double.Holds value := by
  cases value with
  | zero => exact h
  | ofOdd n k odd =>
    obtain ⟨hdigits, hleast, hbound⟩ := h
    simp only [single] at hdigits hleast hbound
    refine ⟨Nat.lt_trans hdigits (by decide), ?_, ?_⟩
    · simp only [double]
      omega
    · simp only [double]
      omega

namespace Number

/-- A number that a format has is rounded to itself. -/
theorem ofDyadic_of_holds {f : Format} {value : Dyadic} (h : f.Holds value) :
    ofDyadic f value = finite value h := dif_pos h

theorem widen_finite {value : Dyadic} (h : single.Holds value) :
    widen (finite value h) = finite value h.of_single := ofDyadic_of_holds h.of_single

/-- **Narrowing undoes widening.** -/
@[simp] theorem narrow_widen (x : Single) : x.widen.narrow = x := by
  cases x with
  | nan | infinite negative | zero negative => rfl
  | finite value h =>
    rw [widen_finite]
    exact ofDyadic_of_holds h

/-- Widening keeps finite numbers finite, and the others as they are. -/
@[simp] theorem isFinite_widen (x : Single) : x.widen.isFinite = x.isFinite := by
  cases x with
  | nan | infinite negative | zero negative => rfl
  | finite value h => rw [widen_finite]; rfl

/-- No number is finite and infinite. -/
theorem not_isInfinite_of_isFinite {f : Format} {x : Number f} (h : x.isFinite = true) :
    x.isInfinite = false := by
  cases x with
  | zero negative | finite value holds => rfl
  | nan | infinite negative => cases h

end Number

end WideColumn.Binary
