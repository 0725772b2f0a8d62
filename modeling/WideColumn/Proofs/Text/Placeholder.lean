import Mathlib.Data.List.DropRight
import WideColumn.Text.Blank

/-! # Placeholders in texts

Replacing the question marks of a text, all at once and in order, and the relation `Aligned` between
a text with question marks, the values for them, and the text with the values written in their
places. The relation is kept by concatenation, by joining with a separator and by trimming, which is
all that it takes to follow a text while it grows. -/

namespace WideColumn.Text

/-! ## Filling -/

/-- A text with its question marks replaced, each by the next filler. What a filler brings along is
not looked at again, and question marks behind the last filler stay. -/
def fillChars : List String → List Char → List Char
  | _, [] => []
  | [], c :: cs => c :: cs
  | v :: vs, c :: cs =>
    if c = '?' then v.toList ++ fillChars vs cs else c :: fillChars (v :: vs) cs

/-- Replacing the question marks of a string by fillers. -/
def fill (fillers : List String) (text : String) : String :=
  String.ofList (fillChars fillers text.toList)

/-- Whether a text is free of question marks. -/
def Unmarked (text : String) : Prop := '?' ∉ text.toList

instance (text : String) : Decidable (Unmarked text) :=
  inferInstanceAs (Decidable ('?' ∉ text.toList))

@[simp] theorem fillChars_nil (fillers : List String) : fillChars fillers [] = [] := by
  cases fillers <;> rfl

@[simp] theorem fillChars_no_fillers (cs : List Char) : fillChars [] cs = cs := by
  cases cs <;> rfl

theorem fillChars_cons_mark (v : String) (vs : List String) (cs : List Char) :
    fillChars (v :: vs) ('?' :: cs) = v.toList ++ fillChars vs cs := by
  rw [fillChars, if_pos rfl]

theorem fillChars_cons_of_ne {c : Char} (h : c ≠ '?') (fillers : List String) (cs : List Char) :
    fillChars fillers (c :: cs) = c :: fillChars fillers cs := by
  cases fillers with
  | nil => rw [fillChars_no_fillers, fillChars_no_fillers]
  | cons v vs => rw [fillChars, if_neg h]

/-- **Filling splits at any place.** The fillers for the front of a text are as many as it has
question marks; the others go to the rest. -/
theorem fillChars_append (us vs : List String) (a b : List Char) (h : a.count '?' = us.length) :
    fillChars (us ++ vs) (a ++ b) = fillChars us a ++ fillChars vs b := by
  induction a generalizing us with
  | nil =>
    have hus : us = [] := List.length_eq_zero_iff.mp (by simpa using h.symm)
    rw [hus, List.nil_append, List.nil_append, fillChars_nil, List.nil_append]
  | cons c cs ih =>
    by_cases hc : c = '?'
    · subst hc
      cases us with
      | nil => simp at h
      | cons u us =>
        have hcs : cs.count '?' = us.length := by simpa using h
        rw [List.cons_append, List.cons_append, fillChars_cons_mark, fillChars_cons_mark,
          ih us hcs, List.append_assoc]
    · have hcs : cs.count '?' = us.length := by simpa [hc] using h
      rw [List.cons_append, fillChars_cons_of_ne hc, fillChars_cons_of_ne hc, ih us hcs,
        List.cons_append]

/-! ## Trimming -/

/-- Trimming splits a text into what is kept and white space. -/
theorem exists_trimEnd_append (cs : List Char) :
    ∃ tail, cs = trimEnd cs ++ tail ∧ ∀ c ∈ tail, isBlank c = true :=
  ⟨cs.rtakeWhile isBlank, List.rdropWhile_append_rtakeWhile.symm,
    fun _ hc => List.mem_rtakeWhile_imp hc⟩

/-- White space at the end does not matter for trimming. -/
theorem trimEnd_append_blank (cs tail : List Char) (h : ∀ c ∈ tail, isBlank c = true) :
    trimEnd (cs ++ tail) = trimEnd cs := by
  have hrev : ∀ c ∈ tail.reverse, isBlank c = true := fun c hc => h c (List.mem_reverse.mp hc)
  rw [trimEnd, trimEnd, List.reverse_append, List.dropWhile_append_of_pos hrev]

/-- A text that ends in something else than white space is trimmed already. -/
theorem trimEnd_concat (cs : List Char) (c : Char) (h : isBlank c = false) :
    trimEnd (cs ++ [c]) = cs ++ [c] :=
  List.rdropWhile_concat_neg isBlank cs c (by rw [h]; exact Bool.false_ne_true)

/-- What is left of a text after trimming is empty or ends in something else than white space. -/
theorem trimEnd_eq_nil_or_concat (cs : List Char) :
    trimEnd cs = [] ∨ ∃ init c, trimEnd cs = init ++ [c] ∧ isBlank c = false := by
  by_cases h : trimEnd cs = []
  · exact Or.inl h
  · have hlast : ¬isBlank ((trimEnd cs).getLast h) = true := List.rdropWhile_last_not isBlank cs h
    exact Or.inr ⟨(trimEnd cs).dropLast, (trimEnd cs).getLast h,
      (List.dropLast_append_getLast h).symm, Bool.eq_false_iff.mpr hlast⟩

/-- A character that is no white space is not trimmed off. -/
theorem trimEnd_ne_nil {c : Char} {cs : List Char} (hc : c ∈ cs) (h : isBlank c = false) :
    trimEnd cs ≠ [] := by
  intro hnil
  obtain ⟨tail, htail, hblank⟩ := exists_trimEnd_append cs
  rw [hnil, List.nil_append] at htail
  rw [hblank c (htail ▸ hc)] at h
  cases h

/-- Trimming reaches into the front of a text only where nothing but white space follows. -/
theorem trimEnd_append (cs rest : List Char) :
    trimEnd (cs ++ rest) = if trimEnd rest = [] then trimEnd cs else cs ++ trimEnd rest := by
  simp only [trimEnd, List.reverse_append, List.dropWhile_append, List.isEmpty_iff,
    List.reverse_eq_nil_iff]
  split
  · rfl
  · rw [List.reverse_append, List.reverse_reverse]

theorem trimEnd_append_of_ne_nil {rest : List Char} (h : trimEnd rest ≠ []) (cs : List Char) :
    trimEnd (cs ++ rest) = cs ++ trimEnd rest := by
  rw [trimEnd_append, if_neg h]

/-- A text that is trimmed already stays whole in front of any other. -/
theorem trimEnd_append_of_trimmed {cs : List Char} (h : trimEnd cs = cs) (rest : List Char) :
    trimEnd (cs ++ rest) = cs ++ trimEnd rest := by
  rw [trimEnd_append]
  split
  · next hrest => rw [h, hrest, List.append_nil]
  · rfl

/-- **What is trimmed off a text comes back when the text goes on,** and nothing else changes. -/
theorem trimEnd_prefix_append (cs rest : List Char) : trimEnd cs <+: trimEnd (cs ++ rest) := by
  rw [trimEnd_append]
  split
  · exact List.prefix_refl _
  · obtain ⟨tail, htail, -⟩ := exists_trimEnd_append cs
    exact ⟨tail ++ trimEnd rest, by rw [← List.append_assoc, ← htail]⟩

/-! ## Alignment -/

/-- A text with question marks, the values for them, and the text with the values in their places:
there are as many question marks as values, and filling them with what is written for the values
gives the written text. -/
structure Aligned {α : Type} (write : α → String) (text : String) (values : List α)
    (written : String) : Prop where
  count_eq : text.toList.count '?' = values.length
  fill_eq : fillChars (values.map write) text.toList = written.toList

namespace Aligned

variable {α ι : Type} {write : α → String} {text text' written written' : String}
  {values values' : List α}

/-- A text without question marks stands for itself. -/
theorem of_unmarked (h : Unmarked text) : Aligned write text [] text where
  count_eq := by rw [List.count_eq_zero.mpr h, List.length_nil]
  fill_eq := by rw [List.map_nil, fillChars_no_fillers]

/-- A question mark alone stands for its value. -/
theorem mark (value : α) : Aligned write "?" [value] (write value) where
  count_eq := rfl
  fill_eq := by
    have h : "?".toList = ['?'] := rfl
    rw [h, List.map_singleton, fillChars_cons_mark, fillChars_nil, List.append_nil]

/-- A text with as many question marks as values stands for what filling makes of it. -/
theorem of_count (h : text.toList.count '?' = values.length) :
    Aligned write text values (fill (values.map write) text) where
  count_eq := h
  fill_eq := by rw [fill, String.toList_ofList]

/-- **Alignment is kept when texts are put together.** -/
theorem append (h : Aligned write text values written) (h' : Aligned write text' values' written') :
    Aligned write (text ++ text') (values ++ values') (written ++ written') where
  count_eq := by
    rw [String.toList_append, List.count_append, h.count_eq, h'.count_eq, List.length_append]
  fill_eq := by
    have hcount : text.toList.count '?' = (values.map write).length := by
      rw [h.count_eq, List.length_map]
    rw [String.toList_append, String.toList_append, List.map_append,
      fillChars_append _ _ _ _ hcount, h.fill_eq, h'.fill_eq]

/-- A text without question marks may come first. -/
theorem unmarked_append (hu : Unmarked text') (h : Aligned write text values written) :
    Aligned write (text' ++ text) values (text' ++ written) :=
  (of_unmarked hu).append h

/-- A text without question marks may come last. -/
theorem append_unmarked (h : Aligned write text values written) (hu : Unmarked text') :
    Aligned write (text ++ text') values (written ++ text') := by
  have happend := h.append (of_unmarked hu)
  rwa [List.append_nil] at happend

/-- **Alignment is kept by a loop that appends.** -/
theorem join {items : List ι} {f : ι → String} {g : ι → List α} {w : ι → String}
    (h : ∀ x ∈ items, Aligned write (f x) (g x) (w x)) :
    Aligned write (String.join (items.map f)) (items.flatMap g) (String.join (items.map w)) := by
  induction items with
  | nil =>
    rw [List.map_nil, List.map_nil, String.join_nil, List.flatMap_nil]
    exact of_unmarked (by decide)
  | cons x rest ih =>
    rw [List.map_cons, List.map_cons, String.join_cons, String.join_cons, List.flatMap_cons]
    exact (h x List.mem_cons_self).append (ih fun y hy => h y (List.mem_cons_of_mem x hy))

/-- **Alignment is kept by joining with a separator.** -/
theorem intercalate {separator : String} (hs : Unmarked separator) {items : List ι}
    {f : ι → String} {g : ι → List α} {w : ι → String}
    (h : ∀ x ∈ items, Aligned write (f x) (g x) (w x)) :
    Aligned write (separator.intercalate (items.map f)) (items.flatMap g)
      (separator.intercalate (items.map w)) := by
  induction items with
  | nil =>
    rw [List.map_nil, List.map_nil, String.intercalate_nil, List.flatMap_nil]
    exact of_unmarked (by decide)
  | cons x rest ih =>
    have hx := h x List.mem_cons_self
    cases rest with
    | nil => simpa using hx
    | cons y rest =>
      have hrest := ih fun z hz => h z (List.mem_cons_of_mem x hz)
      rw [List.map_cons, List.map_cons, List.map_cons, List.map_cons,
        String.intercalate_cons_cons, String.intercalate_cons_cons, List.flatMap_cons]
      exact (hx.append_unmarked hs).append hrest

end Aligned

/-! ## Alignment and trimming -/

theorem count_blank {tail : List Char} (h : ∀ c ∈ tail, isBlank c = true) : tail.count '?' = 0 := by
  rw [List.count_eq_zero]
  intro hmem
  exact absurd (h '?' hmem) (by decide)

/-- **Filling keeps a text trimmed.** No filler may be empty or end in white space: an empty one at
the end would uncover what stands in front of it. -/
theorem trimEnd_fillChars_trimEnd (fillers : List String) (cs : List Char)
    (hf : ∀ v ∈ fillers, v ≠ "" ∧ ∀ c ∈ v.toList, isBlank c = false)
    (hcount : (trimEnd cs).count '?' = fillers.length) :
    trimEnd (fillChars fillers (trimEnd cs)) = fillChars fillers (trimEnd cs) := by
  rcases trimEnd_eq_nil_or_concat cs with h | ⟨init, c, h, hc⟩
  · rw [h, fillChars_nil, trimEnd_nil]
  · rw [h] at hcount ⊢
    by_cases hmark : c = '?'
    · -- The last character is a placeholder, so the last filler ends the text.
      subst hmark
      rcases List.eq_nil_or_concat' fillers with rfl | ⟨us, v, rfl⟩
      · simp at hcount
      · have hinit : init.count '?' = us.length := by simpa using hcount
        obtain ⟨hv, hblank⟩ := hf v (by simp)
        have hne : v.toList ≠ [] := fun e => hv (String.toList_eq_nil_iff.mp e)
        rw [fillChars_append us [v] init ['?'] hinit, fillChars_cons_mark, fillChars_nil,
          List.append_nil, ← List.dropLast_append_getLast hne, ← List.append_assoc]
        exact trimEnd_concat _ _ (hblank _ (List.getLast_mem hne))
    · have hinit : init.count '?' = fillers.length := by
        simpa [hmark] using hcount
      have hfill : fillChars fillers (init ++ [c]) = fillChars fillers init ++ [c] := by
        have happend := fillChars_append fillers [] init [c] hinit
        rwa [List.append_nil, fillChars_no_fillers] at happend
      rw [hfill]
      exact trimEnd_concat _ _ hc

/-- **Alignment is kept by trimming**, where no value is written as nothing or with white space. -/
theorem Aligned.trimEnd {α : Type} {write : α → String} {text written : String} {values : List α}
    (hw : ∀ v, write v ≠ "" ∧ ∀ c ∈ (write v).toList, isBlank c = false)
    (h : Aligned write text values written) :
    Aligned write (String.ofList (Text.trimEnd text.toList)) values
      (String.ofList (Text.trimEnd written.toList)) := by
  obtain ⟨tail, htail, hblank⟩ := exists_trimEnd_append text.toList
  have hcount : (Text.trimEnd text.toList).count '?' = (values.map write).length := by
    have hall := h.count_eq
    rw [htail, List.count_append, count_blank hblank, Nat.add_zero] at hall
    rw [hall, List.length_map]
  have hfillers : ∀ v ∈ values.map write, v ≠ "" ∧ ∀ c ∈ v.toList, isBlank c = false := by
    intro v hv
    obtain ⟨x, -, rfl⟩ := List.mem_map.mp hv
    exact hw x
  have hwritten : written.toList =
      fillChars (values.map write) (Text.trimEnd text.toList) ++ tail := by
    have happend := fillChars_append (values.map write) [] _ tail hcount
    rw [List.append_nil, fillChars_no_fillers, ← htail, h.fill_eq] at happend
    exact happend
  constructor
  · rw [String.toList_ofList, hcount, List.length_map]
  · rw [String.toList_ofList, String.toList_ofList, hwritten, trimEnd_append_blank _ _ hblank,
      trimEnd_fillChars_trimEnd _ _ hfillers hcount]

end WideColumn.Text
