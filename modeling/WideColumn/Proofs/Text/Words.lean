import WideColumn.Proofs.Text.Digits
import WideColumn.Proofs.Text.Placeholder

/-! # Words and trimming

The words of a text and its trimmed form, each against a description that does not compute: a text
has words where it is made of them with white space in between, and it is trimmed where white space
has gone from its ends and nothing else has. -/

namespace WideColumn.Text

/-- What is left begins with the first character of another kind. -/
theorem eq_false_of_mem_head?_dropWhile {p : Char → Bool} {cs : List Char} {c : Char}
    (h : c ∈ (cs.dropWhile p).head?) : p c = false := by
  have hnot := List.head?_dropWhile_not p cs
  rw [Option.mem_def.mp h] at hnot
  exact hnot

/-! ## Words -/

theorem words_append_blank {c : Char} (h : isBlank c = true) (cs rest : List Char) :
    words (cs ++ c :: rest) = words cs ++ words rest := by
  rw [words, words, words, List.splitOnP_append_cons cs rest h, List.filter_append]

theorem words_cons_blank {c : Char} (h : isBlank c = true) (cs : List Char) :
    words (c :: cs) = words cs := words_append_blank h [] cs

/-- A text without white space is a word, unless it is empty. -/
theorem words_eq_singleton {w : List Char} (hne : w ≠ []) (h : ∀ c ∈ w, isBlank c = false) :
    words w = [w] := by
  rw [words, List.splitOnP_eq_singleton h]
  cases w with
  | nil => exact absurd rfl hne
  | cons c rest => rfl

/-- Whether a text consists of some words, with white space in front of them, between them and
behind them. A word goes on until white space or the end. -/
inductive Spelled : List (List Char) → List Char → Prop
  | nil : Spelled [] []
  | blank {c : Char} {ws : List (List Char)} {cs : List Char} (hc : isBlank c = true)
    (rest : Spelled ws cs) : Spelled ws (c :: cs)
  | word {w : List Char} {ws : List (List Char)} {cs : List Char} (hne : w ≠ [])
    (hw : ∀ c ∈ w, isBlank c = false) (hends : ∀ c ∈ cs.head?, isBlank c = true)
    (rest : Spelled ws cs) : Spelled (w :: ws) (w ++ cs)

theorem Spelled.words_eq {ws : List (List Char)} {cs : List Char} (h : Spelled ws cs) :
    words cs = ws := by
  induction h with
  | nil => rfl
  | blank hc rest ih => rw [words_cons_blank hc, ih]
  | @word w ws cs hne hw hends rest ih =>
    cases cs with
    | nil =>
      rw [List.append_nil, words_eq_singleton hne hw, ← ih]
      rfl
    | cons c cs =>
      have hc : isBlank c = true := hends c rfl
      rw [words_append_blank hc, words_eq_singleton hne hw, ← words_cons_blank hc, ih]
      rfl

-- The text behind the first word is no immediate part of the text, so the recursion is on lengths.
theorem spelled_words : (cs : List Char) → Spelled (words cs) cs
  | [] => .nil
  | c :: cs => by
    cases hc : isBlank c with
    | true =>
      rw [words_cons_blank hc]
      exact .blank hc (spelled_words cs)
    | false =>
      let rest := cs.dropWhile fun d => !isBlank d
      let w := c :: cs.takeWhile fun d => !isBlank d
      have hsplit : c :: cs = w ++ rest := by
        rw [List.cons_append, List.takeWhile_append_dropWhile]
      have hw : ∀ d ∈ w, isBlank d = false := by
        intro d hd
        rcases List.mem_cons.mp hd with rfl | hd
        · exact hc
        · simpa using List.mem_takeWhile_imp hd
      have hends : ∀ d ∈ rest.head?, isBlank d = true := by
        intro d hd
        simpa using eq_false_of_mem_head?_dropWhile hd
      have hspelled := Spelled.word (List.cons_ne_nil _ _) hw hends (spelled_words rest)
      rw [hsplit, hspelled.words_eq]
      exact hspelled
termination_by cs => cs.length
decreasing_by
  · exact Nat.lt_succ_of_le (List.length_dropWhile_le _ cs)
  · exact Nat.lt_succ_self cs.length

/-- **A text consists of its words and of no others.** -/
theorem spelled_iff {ws : List (List Char)} {cs : List Char} : Spelled ws cs ↔ words cs = ws :=
  ⟨Spelled.words_eq, fun h => h ▸ spelled_words cs⟩

/-! ## Trimming -/

/-- Whether a text is left of another one when white space goes from both of its ends. -/
structure TrimmedTo (cs trimmed : List Char) : Prop where
  split : ∃ before after, cs = before ++ trimmed ++ after ∧
    (∀ c ∈ before, isBlank c = true) ∧ ∀ c ∈ after, isBlank c = true
  head : ∀ c ∈ trimmed.head?, isBlank c = false
  last : ∀ c ∈ trimmed.getLast?, isBlank c = false

theorem trimmedTo_trim (cs : List Char) : TrimmedTo cs (trim cs) := by
  obtain ⟨after, hafter, hblank⟩ := exists_trimEnd_append (trimStart cs)
  constructor
  · refine ⟨cs.takeWhile isBlank, after, ?_, fun c hc => List.mem_takeWhile_imp hc, hblank⟩
    rw [List.append_assoc, trim, ← hafter, trimStart, List.takeWhile_append_dropWhile]
  · intro c hc
    -- The text begins as it did before its end was cut off.
    have hstart : c ∈ (trimStart cs).head? := by
      rw [hafter, List.head?_append, ← trim, Option.mem_def.mp hc]
      rfl
    exact eq_false_of_mem_head?_dropWhile hstart
  · intro c hc
    rw [trim] at hc
    rcases trimEnd_eq_nil_or_concat (trimStart cs) with h | ⟨init, d, h, hd⟩
    · rw [h] at hc
      cases hc
    · rw [h, List.getLast?_concat, Option.mem_some_iff] at hc
      rw [← hc]
      exact hd

theorem TrimmedTo.trim_eq {cs trimmed : List Char} (h : TrimmedTo cs trimmed) :
    trim cs = trimmed := by
  obtain ⟨⟨before, after, hsplit, hbefore, hafter⟩, hhead, hlast⟩ := h
  have hend : trimEnd trimmed = trimmed := by
    have hstops : Stops isBlank trimmed.reverse := by
      rw [Stops, List.head?_reverse]
      exact hlast
    rw [trimEnd, dropWhile_of_stops hstops, List.reverse_reverse]
  rw [hsplit, List.append_assoc, trim, trimStart, List.dropWhile_append_of_pos hbefore]
  cases trimmed with
  | nil =>
    rw [List.nil_append, List.dropWhile_eq_nil_iff.mpr hafter]
    rfl
  | cons c rest =>
    have hc : isBlank c = false := hhead c rfl
    rw [List.cons_append, List.dropWhile_cons, hc, if_neg Bool.false_ne_true, ← List.cons_append,
      trimEnd_append_blank _ _ hafter, hend]

/-- White space is trimmed off a text that has none of its own, and nothing else is. -/
theorem TrimmedTo.of_forall {before cs after : List Char}
    (hbefore : ∀ c ∈ before, isBlank c = true) (hafter : ∀ c ∈ after, isBlank c = true)
    (h : ∀ c ∈ cs, isBlank c = false) : TrimmedTo (before ++ cs ++ after) cs where
  split := ⟨before, after, rfl, hbefore, hafter⟩
  head c hc := h c (List.mem_of_mem_head? hc)
  last c hc := h c (List.mem_of_mem_getLast? hc)

/-- **A text is trimmed to one text and no other.** -/
theorem trimmedTo_iff {cs trimmed : List Char} : TrimmedTo cs trimmed ↔ trim cs = trimmed :=
  ⟨TrimmedTo.trim_eq, fun h => h ▸ trimmedTo_trim cs⟩

/-! ## Counting question marks -/

/-- The number of question marks in a text. -/
def marks (text : String) : Nat := text.toList.count '?'

@[simp] theorem marks_append (a b : String) : marks (a ++ b) = marks a + marks b := by
  rw [marks, String.toList_append, List.count_append]
  rfl

theorem Aligned.marks_eq {α : Type} {write : α → String} {text written : String} {values : List α}
    (h : Aligned write text values written) : marks text = values.length := h.count_eq

/-- Trimming takes no question mark away. -/
theorem marks_trimEnd (text : String) :
    marks (String.ofList (trimEnd text.toList)) = marks text := by
  obtain ⟨tail, htail, hblank⟩ := exists_trimEnd_append text.toList
  rw [marks, marks, String.toList_ofList]
  conv => rhs; rw [htail]
  rw [List.count_append, count_blank hblank, Nat.add_zero]

end WideColumn.Text
