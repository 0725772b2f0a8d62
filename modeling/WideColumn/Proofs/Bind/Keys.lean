import Mathlib.Data.Finset.Card
import Mathlib.Data.List.Induction
import WideColumn.Bind
import WideColumn.Proofs.Text.Digits

/-! # Keys of bound values

A key is looked for by trying one name after another until one is free. The search ends because the
names that are tried differ from each other and only finitely many are taken; what it ends with is
new, so that keys never repeat and a key stands for the same value for as long as there are
values. -/

namespace WideColumn.BindParams

/-! ## Numbered keys -/

/-- Different numbers make different keys. -/
theorem numberedKey_injective (column : String) : Function.Injective (numberedKey column) := by
  intro m n h
  have hdigits : Text.ofNat m = Text.ofNat n := (String.append_right_inj (column ++ "_")).mp h
  have hnumeral : Text.numeral m = Text.numeral n := String.ofList_injective hdigits
  rw [← Text.digitsValue_numeral m, hnumeral, Text.digitsValue_numeral]

/-- The name that is tried for a column with a number. The first one is the column itself. -/
def triedKey (column : String) (n : Nat) : String :=
  if n = 1 then column else numberedKey column n

/-- Trying names from a number on, up to the first one that is free. -/
inductive Search (taken : List String) (column : String) : Nat → String → Prop
  | found {n : Nat} (free : triedKey column n ∉ taken) : Search taken column n (triedKey column n)
  | again {n : Nat} {key : String} (used : triedKey column n ∈ taken)
    (later : Search taken column (n + 1) key) : Search taken column n key

namespace Search

variable {taken : List String} {column key key' : String} {n : Nat}

theorem not_mem (h : Search taken column n key) : key ∉ taken := by
  induction h with
  | found free => exact free
  | again used later ih => exact ih

/-- A search ends in one way only. -/
theorem unique (h : Search taken column n key) (h' : Search taken column n key') : key = key' := by
  induction h with
  | found free =>
    cases h' with
    | found free' => rfl
    | again used later => exact absurd used free
  | again used later ih =>
    cases h' with
    | found free => exact absurd used free
    | again used' later' => exact ih later'

/-- Names that are taken are passed over. -/
theorem of_used {m : Nat} (hle : n ≤ m) (used : ∀ i, n ≤ i → i < m → triedKey column i ∈ taken)
    (h : Search taken column m key) : Search taken column n key := by
  induction hle using Nat.decreasingInduction with
  | self => exact h
  | of_succ i hi ih =>
    refine .again (used i (Nat.le_refl i) hi) (ih fun j hj => used j (Nat.le_of_succ_le hj))

end Search

/-- The number of a free key is the least one from two on. -/
structure LeastFree (taken : List String) (column : String) (n : Nat) : Prop where
  two_le : 2 ≤ n
  free : numberedKey column n ∉ taken
  least : ∀ m, 2 ≤ m → m < n → numberedKey column m ∈ taken

/-- Among one more numbers than there are taken keys, one makes a free key. -/
theorem exists_free (taken : List String) (column : String) :
    ∃ i < taken.length + 1, numberedKey column (i + 2) ∉ taken := by
  by_contra hall
  push Not at hall
  have hnodup : ((List.range (taken.length + 1)).map fun i => numberedKey column (i + 2)).Nodup :=
    List.nodup_range.map fun i j h => Nat.add_right_cancel (numberedKey_injective column h)
  have hsubset : ((List.range (taken.length + 1)).map fun i => numberedKey column (i + 2)) ⊆
      taken := by
    intro key hkey
    obtain ⟨i, hi, rfl⟩ := List.mem_map.mp hkey
    exact hall i (List.mem_range.mp hi)
  have hlength := (hnodup.subperm hsubset).length_le
  rw [List.length_map, List.length_range] at hlength
  omega

/-- The search for a number finds the least one that makes a free key. -/
theorem exists_freeNumber?_eq (taken : List String) (column : String) :
    ∃ n, freeNumber? taken column = some n ∧ LeastFree taken column n := by
  rw [freeNumber?, List.find?_map]
  cases hfound : (List.range (taken.length + 1)).find?
      ((fun n => decide (numberedKey column n ∉ taken)) ∘ (· + 2)) with
  | none =>
    obtain ⟨i, hi, hfree⟩ := exists_free taken column
    have hused := List.find?_range_eq_none.mp hfound i hi
    simp [hfree] at hused
  | some i =>
    obtain ⟨hfree, -, hbefore⟩ := List.find?_range_eq_some.mp hfound
    refine ⟨i + 2, rfl, Nat.le_add_left 2 i, by simpa using hfree, fun m hm hlt => ?_⟩
    have hused := hbefore (m - 2) (by omega)
    rw [Function.comp_apply, Nat.sub_add_cancel hm] at hused
    simpa using hused

/-- A free column is its own key. -/
theorem freeKey_of_not_mem {taken : List String} {column : String} (h : column ∉ taken) :
    freeKey taken column = column := if_pos h

/-- A column that is taken gets a number, the least one that makes a free key. -/
theorem exists_freeKey_eq {taken : List String} {column : String} (h : column ∈ taken) :
    ∃ n, freeKey taken column = numberedKey column n ∧ LeastFree taken column n := by
  obtain ⟨n, hn, hleast⟩ := exists_freeNumber?_eq taken column
  refine ⟨n, ?_, hleast⟩
  rw [freeKey, if_neg (not_not_intro h), hn]

/-- **Trying one name after another comes to an end,** which is the free key. -/
theorem search_freeKey (taken : List String) (column : String) :
    Search taken column 1 (freeKey taken column) := by
  by_cases h : column ∈ taken
  · obtain ⟨n, hkey, hleast⟩ := exists_freeKey_eq h
    have htried : ∀ {i}, 2 ≤ i → triedKey column i = numberedKey column i := fun hi =>
      if_neg (by omega)
    have hfound : Search taken column n (numberedKey column n) := by
      rw [← htried hleast.two_le]
      exact .found (by rw [htried hleast.two_le]; exact hleast.free)
    rw [hkey]
    refine hfound.of_used (Nat.le_of_succ_le hleast.two_le) fun i hi hlt => ?_
    -- The column itself is tried first; what is tried from then on is passed over as too small.
    rcases Nat.eq_or_lt_of_le hi with rfl | hi
    · exact h
    · rw [htried hi]
      exact hleast.least i hi hlt
  · rw [freeKey_of_not_mem h]
    exact .found h

theorem freeKey_not_mem (taken : List String) (column : String) : freeKey taken column ∉ taken :=
  (search_freeKey taken column).not_mem

/-! ## One more value -/

variable {ps : BindParams} {key : String} {value : Value}

theorem keys_push (ps : BindParams) (bind : Bind) :
    (ps.push bind).keys = ps.keys ++ [ps.nextKey bind.column] := by
  simp [keys, push]

theorem nodup_keys_push (h : ps.keys.Nodup) (bind : Bind) : (ps.push bind).keys.Nodup := by
  rw [keys_push, List.nodup_append]
  refine ⟨h, List.nodup_singleton _, ?_⟩
  rintro key hkey other hother rfl
  rw [List.mem_singleton.mp hother] at hkey
  exact freeKey_not_mem ps.keys bind.column hkey

/-- A key that has a value keeps it when values are added. -/
theorem get?_push_of_eq_some (h : ps.get? key = some value) (bind : Bind) :
    (ps.push bind).get? key = some value := by
  rw [get?, Option.map_eq_some_iff] at h ⊢
  obtain ⟨p, hp, hvalue⟩ := h
  refine ⟨p, ?_, hvalue⟩
  rw [push, List.find?_append, hp, Option.some_or]

theorem get?_foldl_push_of_eq_some (binds : List Bind) :
    ∀ {ps : BindParams}, ps.get? key = some value →
      (binds.foldl push ps).get? key = some value := by
  induction binds with
  | nil => exact fun h => h
  | cons b rest ih => exact fun h => ih (get?_push_of_eq_some h b)

/-- A value that has just been added is found under its key. -/
theorem get?_push_nextKey (ps : BindParams) (bind : Bind) :
    (ps.push bind).get? (ps.nextKey bind.column) = some bind.value := by
  have hnone : ps.params.find? (fun p => p.key == ps.nextKey bind.column) = none := by
    rw [List.find?_eq_none]
    intro p hp heq
    exact freeKey_not_mem ps.keys bind.column (List.mem_map.mpr ⟨p, hp, eq_of_beq heq⟩)
  rw [get?, push, List.find?_append, hnone, Option.none_or, List.find?_cons_of_pos (by simp)]
  rfl

/-! ## Any commands -/

/-- What can be done with bound values. -/
inductive Command
  | push (bind : Bind)
  | clear

/-- Bound values after one command. -/
def obey (ps : BindParams) : Command → BindParams
  | .push bind => ps.push bind
  | .clear => empty

/-- What commands make of no values. -/
def after (commands : List Command) : BindParams := commands.foldl obey empty

/-- The values that are there after one more command. -/
def Command.follow (binds : List Bind) : Command → List Bind
  | .push bind => binds ++ [bind]
  | .clear => []

/-- The values added since all were dropped the last time. -/
def Command.pushed (commands : List Command) : List Bind := commands.foldl follow []

theorem after_concat (commands : List Command) (command : Command) :
    after (commands ++ [command]) = (after commands).obey command := List.foldl_append

theorem Command.pushed_concat (commands : List Command) (command : Command) :
    pushed (commands ++ [command]) = follow (pushed commands) command := List.foldl_append

theorem after_append_push (commands : List Command) (binds : List Bind) :
    after (commands ++ binds.map .push) = binds.foldl push (after commands) := by
  rw [after, List.foldl_append, List.foldl_map]
  rfl

theorem nodup_keys_after (commands : List Command) : (after commands).keys.Nodup := by
  induction commands using List.reverseRecOn with
  | nil => exact List.nodup_nil
  | append_singleton commands command ih =>
    rw [after_concat]
    cases command with
    | push bind => exact nodup_keys_push ih bind
    | clear => exact List.nodup_nil

theorem binds_after (commands : List Command) :
    (after commands).params.map BindParam.bind = Command.pushed commands := by
  induction commands using List.reverseRecOn with
  | nil => rfl
  | append_singleton commands command ih =>
    rw [after_concat, Command.pushed_concat, ← ih]
    cases command with
    | push bind => exact List.map_append
    | clear => rfl

/-- Whether the values after some commands have keys of their own, and every value that is added
then gets one for good. -/
structure Keyed (commands : List Command) : Prop where
  /-- No key repeats. -/
  nodup : (after commands).keys.Nodup
  /-- What was added since all were dropped is there in its order, each with its column. -/
  binds_eq : (after commands).params.map BindParam.bind = Command.pushed commands
  values_eq : (after commands).values = (Command.pushed commands).map Bind.value
  /-- Trying names ends, with the next key of a column. -/
  search_iff : ∀ column key,
    Search (after commands).keys column 1 key ↔ key = (after commands).nextKey column
  /-- This is the column itself, if it is free. -/
  own : ∀ column, column ∉ (after commands).keys → (after commands).nextKey column = column
  /-- Otherwise it has the least number that makes a free key. -/
  numbered : ∀ column, column ∈ (after commands).keys → ∃ n,
    (after commands).nextKey column = numberedKey column n ∧
      LeastFree (after commands).keys column n
  /-- One more value comes last and has the next key. -/
  added : ∀ bind, (after (commands ++ [.push bind])).params =
    (after commands).params ++ [⟨(after commands).nextKey bind.column, bind⟩]
  /-- It is found under its key until all values are dropped. -/
  kept : ∀ (bind : Bind) (later : List Bind),
    (after (commands ++ (bind :: later).map .push)).get? ((after commands).nextKey bind.column) =
      some bind.value

/-- **Keys are unique and stay,** whatever the columns are called. -/
theorem keyed_after (commands : List Command) : Keyed commands where
  nodup := nodup_keys_after commands
  binds_eq := binds_after commands
  values_eq := by
    rw [← binds_after, List.map_map]
    rfl
  search_iff column key := by
    have hends := search_freeKey (after commands).keys column
    exact ⟨fun h => h.unique hends, fun h => h ▸ hends⟩
  own _ h := freeKey_of_not_mem h
  numbered _ h := exists_freeKey_eq h
  added bind := by
    rw [after_concat]
    rfl
  kept bind later := by
    rw [after_append_push, List.foldl_cons]
    exact get?_foldl_push_of_eq_some later (get?_push_nextKey _ bind)

example : (ofBinds [⟨"age", .int 1, .written⟩, ⟨"age_2", .int 2, .written⟩,
    ⟨"age", .int 3, .written⟩, ⟨"age_2", .int 4, .written⟩]).keys =
      ["age", "age_2", "age_3", "age_2_2"] := by
  decide +kernel

end WideColumn.BindParams
