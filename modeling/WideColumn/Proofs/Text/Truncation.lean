import WideColumn.Text.Truncate

/-! # Where a text is cut

Places in a text are counted in bytes, and a text can only be cut at those that are not inside a
character. The way back from the limit ends at the first of them, so that what stands in front of it
is the longest run of whole characters within the limit. No character has more than four bytes, so
the way back is never longer than three. -/

namespace WideColumn.Text

/-! ## Boundaries -/

/-- A boundary is a place behind whole characters. -/
theorem isBoundary_iff {text : String} {place : Nat} :
    isBoundary text place = true ↔
      ∃ front rest, text = front ++ rest ∧ front.utf8ByteSize = place := by
  rw [isBoundary, String.Pos.Raw.isValid_eq_true_iff, String.Pos.Raw.isValid_iff_exists_append]
  simp only [String.Pos.Raw.ext_iff, String.byteIdx_rawEndPos, eq_comm]

/-- What stands in front of a place has as many bytes as the place counts. -/
theorem before?_eq_some_iff {text front : String} {place : Nat} :
    before? text place = some front ↔
      ∃ rest, text = front ++ rest ∧ front.utf8ByteSize = place := by
  rw [before?]
  split
  · rw [Option.some_inj, String.copy_sliceTo_eq_iff_exists_splits]
    constructor
    · rintro ⟨rest, heq, hoffset⟩
      exact ⟨rest, heq, (congrArg String.Pos.Raw.byteIdx hoffset).symm⟩
    · rintro ⟨rest, heq, hsize⟩
      exact ⟨rest, heq, String.Pos.Raw.ext hsize.symm⟩
  · next hinside =>
    constructor
    · intro h
      cases h
    · intro hfront
      exact absurd (isBoundary_iff.mpr ⟨front, hfront⟩) hinside

theorem lastBoundary_le (text : String) (place : Nat) : lastBoundary text place ≤ place := by
  fun_induction lastBoundary text place with
  | case1 => exact Nat.le_refl 0
  | case2 place h => exact Nat.le_refl (place + 1)
  | case3 place h ih => exact Nat.le_succ_of_le ih

/-- No boundary is passed over on the way back. -/
theorem le_lastBoundary {text : String} {place other : Nat} (h : isBoundary text other = true)
    (hle : other ≤ place) : other ≤ lastBoundary text place := by
  fun_induction lastBoundary text place with
  | case1 => exact hle
  | case2 place hplace => exact hle
  | case3 place hplace ih =>
    refine ih (Nat.le_of_lt_succ (Nat.lt_of_le_of_ne hle ?_))
    rintro rfl
    exact hplace h

/-! ## Whole characters -/

/-- A text starts with the characters of another one exactly if it is that one and more. -/
theorem toList_prefix_iff {front text : String} :
    front.toList <+: text.toList ↔ ∃ rest, text = front ++ rest := by
  constructor
  · rintro ⟨rest, h⟩
    refine ⟨String.ofList rest, ?_⟩
    rw [← String.toList_inj, String.toList_append, String.toList_ofList, h]
  · rintro ⟨rest, rfl⟩
    exact ⟨rest.toList, String.toList_append.symm⟩

/-- Of two texts that the same text starts with, the one with fewer bytes has fewer characters. -/
theorem toList_prefix_of_size_le {text front other : String} (hfront : front.toList <+: text.toList)
    (hother : other.toList <+: text.toList) (h : other.utf8ByteSize ≤ front.utf8ByteSize) :
    other.toList <+: front.toList := by
  rcases List.prefix_or_prefix_of_prefix hother hfront with hshort | hlong
  · exact hshort
  · obtain ⟨more, rfl⟩ := toList_prefix_iff.mp hlong
    rw [String.utf8ByteSize_append] at h
    have hmore : more = "" := String.utf8ByteSize_eq_zero_iff.mp (by omega)
    simp [hmore]

/-- Whether a text is the longest run of whole characters at the start of another one that has no
more bytes than there is room for. -/
structure LongestFront (text : String) (room : Nat) (front : String) : Prop where
  starts : front.toList <+: text.toList
  fits : front.utf8ByteSize ≤ room
  longest : ∀ other : String, other.toList <+: text.toList → other.utf8ByteSize ≤ room →
    other.toList <+: front.toList

theorem longestFront_of_before? {text front : String} {room : Nat}
    (h : before? text (lastBoundary text room) = some front) : LongestFront text room front := by
  obtain ⟨rest, hsplit, hsize⟩ := before?_eq_some_iff.mp h
  have hstarts : front.toList <+: text.toList := toList_prefix_iff.mpr ⟨rest, hsplit⟩
  constructor
  case starts => exact hstarts
  case fits =>
    rw [hsize]
    exact lastBoundary_le text room
  case longest =>
    intro other hother hfits
    refine toList_prefix_of_size_le hstarts hother ?_
    obtain ⟨more, hmore⟩ := toList_prefix_iff.mp hother
    rw [hsize]
    exact le_lastBoundary (isBoundary_iff.mpr ⟨other, more, hmore, rfl⟩) hfits

/-- Where a character is left over, there is no room for it. -/
theorem LongestFront.lt_size_push {text front rest : String} {room : Nat} {c : Char}
    (h : LongestFront text room front) (hsplit : text = front.push c ++ rest) :
    room < (front.push c).utf8ByteSize := by
  rw [← Nat.not_le]
  intro hfits
  have hprefix := h.longest (front.push c) (toList_prefix_iff.mpr ⟨rest, hsplit⟩) hfits
  have hlength := hprefix.length_le
  rw [String.toList_push, List.length_append, List.length_singleton] at hlength
  omega

/-- What is cut off within the limit is less than a character. -/
theorem LongestFront.le_size_add {text front : String} {room : Nat}
    (h : LongestFront text room front) (hlong : room < text.utf8ByteSize) :
    room ≤ front.utf8ByteSize + 3 := by
  obtain ⟨rest, hrest⟩ := h.starts
  cases rest with
  | nil =>
    -- Then the whole text would fit.
    rw [List.append_nil, String.toList_inj] at hrest
    have hfits := h.fits
    rw [hrest] at hfits
    omega
  | cons c rest =>
    have hsplit : text = front.push c ++ String.ofList rest := by
      rw [← String.toList_inj, String.toList_append, String.toList_push, String.toList_ofList,
        List.append_assoc, List.singleton_append, hrest]
    have hlt := h.lt_size_push hsplit
    have hfour := c.utf8Size_le_four
    rw [String.utf8ByteSize_push] at hlt
    omega

/-! ## Cutting -/

/-- A text that is longer than the limit is cut where the way back ends. -/
theorem truncate_of_lt {text : String} {room : Nat} (h : room < text.utf8ByteSize) :
    ∃ front, before? text (lastBoundary text room) = some front ∧
      truncate (some room) text = front ++ "..." := by
  refine ⟨_, Option.eq_some_of_isSome (isSome_before?_lastBoundary text room), ?_⟩
  rw [truncate, if_neg (Nat.not_le.mpr h)]

/-- **A text is cut behind as many whole characters as the limit has room for:** a text within the
limit, or without one, stays as it is; a longer one is cut at a place that can be cut, which is no
more than three bytes in front of the limit. -/
theorem truncate_longest (text : String) :
    truncate none text = text ∧
      ∀ room : Nat,
        (text.utf8ByteSize ≤ room → truncate (some room) text = text) ∧
        (room < text.utf8ByteSize → ∃ front,
          before? text (lastBoundary text room) = some front ∧
            truncate (some room) text = front ++ "..." ∧ LongestFront text room front ∧
              room ≤ front.utf8ByteSize + 3) := by
  refine ⟨rfl, fun room => ⟨fun hfits => if_pos hfits, fun hlong => ?_⟩⟩
  obtain ⟨front, hfront, htruncate⟩ := truncate_of_lt hlong
  have hlongest := longestFront_of_before? hfront
  exact ⟨front, hfront, htruncate, hlongest, hlongest.le_size_add hlong⟩

/-- A limit behind three of the four bytes of a character. -/
theorem truncate_longest_inside :
    8 < "é€😀".utf8ByteSize ∧ truncate (some 8) "é€😀" = "é€..." ∧ ∃ front,
      before? "é€😀" (lastBoundary "é€😀" 8) = some front ∧
        truncate (some 8) "é€😀" = front ++ "..." ∧ LongestFront "é€😀" 8 front ∧
          8 ≤ front.utf8ByteSize + 3 := by
  have hlong : 8 < "é€😀".utf8ByteSize := by decide
  exact ⟨hlong, by decide, ((truncate_longest "é€😀").2 8).2 hlong⟩

end WideColumn.Text
