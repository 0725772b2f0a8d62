import WideColumn.Proofs.Bind.Keys

/-! # Columns under their own names

The first value of a column should be found under the name of the column. It is, unless an earlier
value of another column that was there already had to take just this name: keys are given out in the
order of the values and are never taken back. -/

namespace WideColumn.BindParams

theorem ofBinds_concat (binds : List Bind) (b : Bind) :
    ofBinds (binds ++ [b]) = (ofBinds binds).push b := List.foldl_append

/-- An entry is one that was there before, or the new one under the next key. -/
theorem mem_params_push {ps : BindParams} {b : Bind} {p : BindParam} :
    p ∈ (ps.push b).params ↔ p ∈ ps.params ∨ p = ⟨ps.nextKey b.column, b⟩ := by
  rw [push, List.mem_append, List.mem_singleton]

/-- The next key of a column is its name, with or without a number. -/
theorem nextKey_eq_or (ps : BindParams) (column : String) :
    ps.nextKey column = column ∨ ∃ n, 2 ≤ n ∧ ps.nextKey column = numberedKey column n := by
  by_cases h : column ∈ ps.keys
  · obtain ⟨n, hkey, hleast⟩ := exists_freeKey_eq h
    exact Or.inr ⟨n, hleast.two_le, hkey⟩
  · exact Or.inl (freeKey_of_not_mem h)

/-- What holds of the key and the value of every entry. -/
structure Entered (binds : List Bind) (p : BindParam) : Prop where
  mem : p.bind ∈ binds
  key_eq_or : p.key = p.bind.column ∨ ∃ n, 2 ≤ n ∧ p.key = numberedKey p.bind.column n
  get?_eq : (ofBinds binds).get? p.key = some p.bind.value

theorem entered_of_mem {binds : List Bind} {p : BindParam} (h : p ∈ (ofBinds binds).params) :
    Entered binds p := by
  induction binds using List.reverseRecOn with
  | nil => cases h
  | append_singleton binds b ih =>
    rw [ofBinds_concat, mem_params_push] at h
    rcases h with h | rfl
    · have hp := ih h
      refine ⟨List.mem_append_left _ hp.mem, hp.key_eq_or, ?_⟩
      rw [ofBinds_concat]
      exact get?_push_of_eq_some hp.get?_eq b
    · refine ⟨List.mem_append_right _ (List.mem_singleton_self b), nextKey_eq_or _ _, ?_⟩
      rw [ofBinds_concat]
      exact get?_push_nextKey _ b

/-- **What is found under the name of a column** is the first value of the column, if the name was
free when it was added. If not, it is the earlier value of another column to which the name fell as
that column's name with a number. -/
theorem get?_column_of_first {before : List Bind} {b : Bind}
    (hfirst : ∀ e ∈ before, e.column ≠ b.column) (later : List Bind) :
    (b.column ∉ (ofBinds before).keys →
      (ofBinds (before ++ b :: later)).get? b.column = some b.value) ∧
    (b.column ∈ (ofBinds before).keys → ∃ e ∈ before, ∃ n, 2 ≤ n ∧
      b.column = numberedKey e.column n ∧
        (ofBinds (before ++ b :: later)).get? b.column = some e.value) := by
  have happend : ofBinds (before ++ b :: later) = (b :: later).foldl push (ofBinds before) :=
    List.foldl_append
  rw [happend]
  constructor
  · intro hfree
    have hkey : (ofBinds before).nextKey b.column = b.column := freeKey_of_not_mem hfree
    have hget := get?_push_nextKey (ofBinds before) b
    rw [hkey] at hget
    exact get?_foldl_push_of_eq_some later hget
  · intro hused
    obtain ⟨p, hp, hkey⟩ := List.mem_map.mp hused
    have hentered := entered_of_mem hp
    have hget := hentered.get?_eq
    rw [hkey] at hget
    refine ⟨p.bind, hentered.mem, ?_⟩
    rcases hentered.key_eq_or with hown | ⟨n, hn, hnumbered⟩
    · exact absurd (hown.symm.trans hkey) (hfirst p.bind hentered.mem)
    · exact ⟨n, hn, hkey.symm.trans hnumbered, get?_foldl_push_of_eq_some (b :: later) hget⟩

/-- A name that looks like one with a number, whose turn comes before the number is given out. -/
theorem get?_column_of_first_age :
    let before : List Bind := [⟨"age", .int 18, .operand⟩]
    let b : Bind := ⟨"age_2", .int 5, .operand⟩
    let later : List Bind := [⟨"age", .int 65, .operand⟩]
    (∀ e ∈ before, e.column ≠ b.column) ∧ b.column ∉ (ofBinds before).keys ∧
      (ofBinds (before ++ b :: later)).get? "age_2" = some (.int 5) := by
  intro before b later
  have hfirst : ∀ e ∈ before, e.column ≠ b.column := by decide
  have hfree : b.column ∉ (ofBinds before).keys := by decide +kernel
  exact ⟨hfirst, hfree, (get?_column_of_first hfirst later).1 hfree⟩

/-- The same values in another order. The number has been given out when the turn of the name
comes, and what is found under the name is a value of another column. -/
theorem age_hides_age_2 :
    let binds : List Bind :=
      [⟨"age", .int 18, .operand⟩, ⟨"age", .int 65, .operand⟩, ⟨"age_2", .int 5, .operand⟩]
    binds.find? (fun b => b.column == "age_2") = some ⟨"age_2", .int 5, .operand⟩ ∧
      (ofBinds binds).keys = ["age", "age_2", "age_2_2"] ∧
      (ofBinds binds).get? "age_2" = some (.int 65) ∧
      ¬ ∀ (before later : List Bind) (b : Bind), (∀ e ∈ before, e.column ≠ b.column) →
        (ofBinds (before ++ b :: later)).get? b.column = some b.value := by
  intro binds
  have hfound : (ofBinds binds).get? "age_2" = some (.int 65) := by decide +kernel
  refine ⟨by decide +kernel, by decide +kernel, hfound, fun hall => ?_⟩
  have hown := hall (binds.take 2) [] ⟨"age_2", .int 5, .operand⟩ (by decide)
  cases hown.symm.trans hfound

end WideColumn.BindParams
