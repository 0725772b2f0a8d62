import WideColumn.Proofs.Text.Digits

/-! # Hexadecimal digits of bytes

Which texts stand for bytes in hexadecimal digits, told by the places of the digits in their
alphabets. All of them are read as the bytes, in whatever letter case they are, and the text that is
written for bytes is the one in lower case. -/

namespace WideColumn.Text

/-- Whether a character is the digit of a value in lower case. -/
def LowerDigit (value : Nat) (c : Char) : Prop := "0123456789abcdef".toList[value]? = some c

/-- Whether a character is the digit of a value in either letter case. -/
def CaselessDigit (value : Nat) (c : Char) : Prop :=
  LowerDigit value c ∨ "0123456789ABCDEF".toList[value]? = some c

/-- Whether a text has two digits for each byte, that of the upper half first. -/
inductive InHex (digit : Nat → Char → Prop) : List UInt8 → List Char → Prop
  | nil : InHex digit [] []
  | cons {b : UInt8} {high low : Char} {bytes : List UInt8} {cs : List Char}
    (hhigh : digit (b.toNat / 16) high) (hlow : digit (b.toNat % 16) low)
    (rest : InHex digit bytes cs) : InHex digit (b :: bytes) (high :: low :: cs)

theorem LowerDigit.caseless {value : Nat} {c : Char} (h : LowerDigit value c) :
    CaselessDigit value c := Or.inl h

theorem lowerDigit_digitChar {value : Nat} (h : value < 16) : LowerDigit value value.digitChar := by
  have hall : ∀ n < 16, "0123456789abcdef".toList[n]? = some n.digitChar := by decide
  exact hall value h

theorem CaselessDigit.lt {value : Nat} {c : Char} (h : CaselessDigit value c) : value < 16 := by
  rcases h with h | h <;> exact (List.getElem?_eq_some_iff.mp h).1

/-- A digit of either letter case is read as its value. -/
theorem CaselessDigit.hexValue?_eq {value : Nat} {c : Char} (h : CaselessDigit value c) :
    hexValue? c = some value := by
  have hlower : ∀ n < 16, ("0123456789abcdef".toList[n]?).bind hexValue? = some n := by decide
  have hupper : ∀ n < 16, ("0123456789ABCDEF".toList[n]?).bind hexValue? = some n := by decide
  have hlt := h.lt
  rcases h with h | h
  · have hread := hlower value hlt
    rwa [show _ = some c from h] at hread
  · have hread := hupper value hlt
    rwa [h] at hread

/-- A character is read as a value only if it is a digit of the value. -/
theorem caselessDigit_of_hexValue? {value : Nat} {c : Char} (h : hexValue? c = some value) :
    CaselessDigit value c := by
  have hall : ∀ n < 0x80, ∀ v ∈ hexValue? (Char.ofNat n),
      "0123456789abcdef".toList[v]? = some (Char.ofNat n) ∨
        "0123456789ABCDEF".toList[v]? = some (Char.ofNat n) := by decide +kernel
  have hdigit : isHexDigit c = true := by
    rw [isHexDigit, h]
    rfl
  have hread := hall c.toNat (toNat_of_isHexDigit hdigit).2
  rw [Char.ofNat_toNat] at hread
  exact hread value h

namespace InHex

variable {digit digit' : Nat → Char → Prop} {bytes : List UInt8} {cs : List Char}

theorem imp (himp : ∀ {value c}, digit value c → digit' value c) (h : InHex digit bytes cs) :
    InHex digit' bytes cs := by
  induction h with
  | nil => exact .nil
  | cons hhigh hlow _ ih => exact .cons (himp hhigh) (himp hlow) ih

theorem length_eq (h : InHex digit bytes cs) : cs.length = 2 * bytes.length := by
  induction h with
  | nil => rfl
  | cons _ _ _ ih =>
    simp only [List.length_cons, ih]
    omega

/-- **Digits of either letter case are read as their bytes.** -/
theorem ofHex?_eq (h : InHex CaselessDigit bytes cs) : ofHex? cs = some bytes := by
  induction h with
  | nil => rfl
  | @cons b high low bytes cs hhigh hlow _ ih =>
    have hjoin : UInt8.ofNat (16 * (b.toNat / 16) + b.toNat % 16) = b := by
      rw [Nat.div_add_mod, UInt8.ofNat_toNat]
    rw [ofHex?, hhigh.hexValue?_eq, hlow.hexValue?_eq, ih]
    exact congrArg (fun x => some (x :: bytes)) hjoin

/-- Texts that are read as bytes are their digits. -/
theorem of_ofHex? (h : ofHex? cs = some bytes) : InHex CaselessDigit bytes cs := by
  fun_induction ofHex? cs generalizing bytes with
  | case1 =>
    cases h
    exact .nil
  | case2 => cases h
  | case3 high low rest ih =>
    obtain ⟨upper, hupper, h⟩ := Option.bind_eq_some_iff.mp h
    obtain ⟨lower, hlower, h⟩ := Option.bind_eq_some_iff.mp h
    obtain ⟨others, hothers, h⟩ := Option.bind_eq_some_iff.mp h
    cases h
    have hhigh := caselessDigit_of_hexValue? hupper
    have hlow := caselessDigit_of_hexValue? hlower
    have hlt := hhigh.lt
    have hlt' := hlow.lt
    have hbyte : (UInt8.ofNat (16 * upper + lower)).toNat = 16 * upper + lower :=
      UInt8.toNat_ofNat_of_lt' (by rw [UInt8.size]; omega)
    refine .cons ?_ ?_ (ih hothers)
    · rw [hbyte, show (16 * upper + lower) / 16 = upper by omega]
      exact hhigh
    · rw [hbyte, show (16 * upper + lower) % 16 = lower by omega]
      exact hlow

theorem isHexDigit_of_mem (h : InHex CaselessDigit bytes cs) :
    ∀ c ∈ cs, isHexDigit c = true := by
  have hdigit : ∀ {value c}, CaselessDigit value c → isHexDigit c = true := by
    intro value c hc
    rw [isHexDigit, hc.hexValue?_eq]
    rfl
  induction h with
  | nil => exact List.forall_mem_nil _
  | cons hhigh hlow _ ih =>
    exact List.forall_mem_cons.mpr ⟨hdigit hhigh, List.forall_mem_cons.mpr ⟨hdigit hlow, ih⟩⟩

end InHex

/-- Bytes are written in lower case. -/
theorem inHex_hex (bytes : List UInt8) : InHex LowerDigit bytes (hex bytes) := by
  induction bytes with
  | nil => exact .nil
  | cons b rest ih =>
    have hb := b.toNat_lt
    exact .cons (lowerDigit_digitChar (by omega)) (lowerDigit_digitChar (by omega)) ih

end WideColumn.Text
