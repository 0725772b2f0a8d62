import WideColumn.Proofs.Text.Hexadecimal
import WideColumn.Uuid.Reader

/-! # Reading identifiers

The texts of an identifier: its digits in either letter case, all together or in five groups with
hyphens between them. All of them are read as the identifier; the one that is written for it is the
text in groups and in lower case. -/

namespace WideColumn.Uuid

/-! ## Texts of an identifier -/

/-- Whether a text has the digits of an identifier in five groups, with hyphens between them. -/
inductive Grouped (digit : Nat → Char → Prop) (u : Uuid) : List Char → Prop
  | groups {a b c d e : List Char} (ha : a.length = 8) (hb : b.length = 4) (hc : c.length = 4)
    (hd : d.length = 4) (he : e.length = 12)
    (h : Text.InHex digit u.bytes (a ++ b ++ c ++ d ++ e)) :
    Grouped digit u (a ++ '-' :: b ++ '-' :: c ++ '-' :: d ++ '-' :: e)

/-- Whether a text is an identifier in digits of either letter case. -/
inductive Written (u : Uuid) : List Char → Prop
  | digits {cs : List Char} (h : Text.InHex Text.CaselessDigit u.bytes cs) : Written u cs
  | grouped {cs : List Char} (h : Grouped Text.CaselessDigit u cs) : Written u cs

theorem Grouped.imp {digit digit' : Nat → Char → Prop} {u : Uuid} {cs : List Char}
    (himp : ∀ {value c}, digit value c → digit' value c) (h : Grouped digit u cs) :
    Grouped digit' u cs := by
  obtain ⟨ha, hb, hc, hd, he, h⟩ := h
  exact .groups ha hb hc hd he (h.imp himp)

/-- The groups of an identifier are its digits. -/
theorem hex_groups (u : Uuid) :
    Text.hex (u.bytes.take 4) ++ Text.hex ((u.bytes.drop 4).take 2) ++
      Text.hex ((u.bytes.drop 6).take 2) ++ Text.hex ((u.bytes.drop 8).take 2) ++
      Text.hex (u.bytes.drop 10) = Text.hex u.bytes := by
  have hsplit : ∀ count start, (u.bytes.drop start).take count ++ u.bytes.drop (start + count) =
      u.bytes.drop start := by
    intro count start
    rw [← List.drop_drop, List.take_append_drop]
  simp only [← Text.hex_append, List.append_assoc]
  rw [hsplit 2 8, hsplit 2 6, hsplit 2 4, List.take_append_drop]

/-- The text that is written for an identifier is in groups and in lower case. -/
theorem grouped_hyphenated (u : Uuid) : Grouped Text.LowerDigit u u.hyphenated := by
  rw [hyphenated]
  apply Grouped.groups
  case h =>
    rw [hex_groups]
    exact Text.inHex_hex u.bytes
  all_goals simp [u.size_eq]

theorem written_hyphenated (u : Uuid) : Written u u.hyphenated :=
  .grouped (u.grouped_hyphenated.imp Text.LowerDigit.caseless)

/-! ## Reading them -/

/-- Five groups with hyphens between them are read as their digits. -/
theorem ofGroups?_hyphens {a b c d : List Char} (ha : a.length = 8) (hb : b.length = 4)
    (hc : c.length = 4) (hd : d.length = 4) (e : List Char) :
    ofGroups? (a ++ '-' :: b ++ '-' :: c ++ '-' :: d ++ '-' :: e) =
      ofDigits? (a ++ b ++ c ++ d ++ e) := by
  simp [ofGroups?, List.getElem?_append, List.drop_append, List.drop_eq_nil_of_le, ha, hb, hc, hd]

section

variable {u : Uuid} {cs : List Char}

theorem ofDigits?_of_inHex (h : Text.InHex Text.CaselessDigit u.bytes cs) :
    ofDigits? cs = some u := by
  rw [ofDigits?, h.ofHex?_eq]
  exact ofBytes?_bytes u

theorem Grouped.ofGroups?_eq (h : Grouped Text.CaselessDigit u cs) : ofGroups? cs = some u := by
  obtain ⟨ha, hb, hc, hd, -, h⟩ := h
  rw [ofGroups?_hyphens ha hb hc hd, ofDigits?_of_inHex h]

namespace Written

theorem isHexDigit_or_hyphen (h : Written u cs) :
    ∀ c ∈ cs, Text.isHexDigit c = true ∨ c = '-' := by
  intro c hmem
  cases h with
  | digits h => exact Or.inl (h.isHexDigit_of_mem c hmem)
  | grouped h =>
    obtain ⟨-, -, -, -, -, h⟩ := h
    have hdigit := h.isHexDigit_of_mem c
    simp only [List.mem_append, List.mem_cons] at hmem hdigit
    grind

/-- All characters of an identifier's text are ASCII characters behind the space. -/
theorem toNat_of_mem (h : Written u cs) : ∀ c ∈ cs, 0x20 < c.toNat ∧ c.toNat < 0x80 := by
  intro c hmem
  rcases h.isHexDigit_or_hyphen c hmem with hc | rfl
  · exact Text.toNat_of_isHexDigit hc
  · decide

theorem isBlank_of_mem (h : Written u cs) : ∀ c ∈ cs, Text.isBlank c = false := by
  intro c hmem
  exact Text.isBlank_eq_false (h.toNat_of_mem c hmem).1 (h.toNat_of_mem c hmem).2

/-- **All texts of an identifier are read as the identifier.** -/
theorem read_eq (h : Written u cs) : read cs = .ok u := by
  have hbytes : Text.byteLength cs = cs.length :=
    Text.byteLength_eq_length fun c hmem => (h.toNat_of_mem c hmem).2
  -- The length tells the two kinds of texts apart.
  cases h with
  | digits h =>
    have hlength : Text.byteLength cs = 32 := by rw [hbytes, h.length_eq, u.size_eq]
    have hread : notation? cs = some (cs, ofDigits?) := by
      rw [notation?, hlength]
      rfl
    rw [read, hread]
    simp only [ofDigits?_of_inHex h]
  | grouped h =>
    have hlength : Text.byteLength cs = 36 := by
      rw [hbytes]
      obtain ⟨ha, hb, hc, hd, he, -⟩ := h
      simp [ha, hb, hc, hd, he]
    have hread : notation? cs = some (cs, ofGroups?) := by
      rw [notation?, hlength]
      rfl
    rw [read, hread]
    simp only [h.ofGroups?_eq]

end Written

end

theorem isBlank_of_mem_hyphenated {u : Uuid} {c : Char} (h : c ∈ u.hyphenated) :
    Text.isBlank c = false := u.written_hyphenated.isBlank_of_mem c h

theorem read_hyphenated (u : Uuid) : read u.hyphenated = .ok u := u.written_hyphenated.read_eq

end WideColumn.Uuid
