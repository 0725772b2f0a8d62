import Mathlib.Data.List.Nodup

/-! # Values under names

In a list of named values a name may come more than once. A look-up from the front finds its first
value and a look-up from the back its last one; where every name comes once, there is no other. -/

namespace WideColumn

variable {α β : Type} {pairs : List (String × α)} {name : String} {value : α}

/-- Whether a value is the first one of a name. -/
def FirstNamed (pairs : List (String × α)) (name : String) (value : α) : Prop :=
  ∃ before after, pairs = before ++ (name, value) :: after ∧ ∀ earlier ∈ before, earlier.1 ≠ name

/-- Whether a value is the last one of a name. -/
def LastNamed (pairs : List (String × α)) (name : String) (value : α) : Prop :=
  ∃ before after, pairs = before ++ (name, value) :: after ∧ ∀ later ∈ after, later.1 ≠ name

theorem lookup_cons_eq_ite (pair : String × α) (pairs : List (String × α)) (name : String) :
    (pair :: pairs).lookup name = if name = pair.1 then some pair.2 else pairs.lookup name := by
  rw [List.lookup_cons]
  by_cases h : name = pair.1
  · rw [if_pos h, beq_iff_eq.mpr h]
  · rw [if_neg h, beq_false_of_ne h]

theorem lookup_eq_some_iff_firstNamed :
    pairs.lookup name = some value ↔ FirstNamed pairs name value := by
  rw [List.lookup_eq_some_iff]
  simp only [FirstNamed, bne_iff_ne, ne_comm]

theorem firstNamed_reverse : FirstNamed pairs.reverse name value ↔ LastNamed pairs name value := by
  constructor
  · rintro ⟨before, after, hsplit, hbefore⟩
    refine ⟨after.reverse, before.reverse, ?_, fun later hlater =>
      hbefore later (List.mem_reverse.mp hlater)⟩
    rw [← List.reverse_inj, hsplit]
    simp
  · rintro ⟨before, after, rfl, hafter⟩
    refine ⟨after.reverse, before.reverse, by simp, fun earlier hearlier =>
      hafter earlier (List.mem_reverse.mp hearlier)⟩

theorem lookup_reverse_eq_some_iff_lastNamed :
    pairs.reverse.lookup name = some value ↔ LastNamed pairs name value :=
  lookup_eq_some_iff_firstNamed.trans firstNamed_reverse

/-- Nothing is found under a name that no value has. -/
theorem lookup_eq_none_iff_not_mem : pairs.lookup name = none ↔ name ∉ pairs.map Prod.fst := by
  rw [List.lookup_eq_none_iff, List.mem_map]
  simp only [bne_iff_ne, not_exists, not_and, ne_comm]

/-- Every name has a last value. -/
theorem exists_lastNamed_iff :
    (∃ value, LastNamed pairs name value) ↔ name ∈ pairs.map Prod.fst := by
  rw [← not_iff_not, ← List.mem_reverse, ← List.map_reverse, ← lookup_eq_none_iff_not_mem,
    Option.eq_none_iff_forall_ne_some, not_exists]
  exact forall_congr' fun value => not_congr lookup_reverse_eq_some_iff_lastNamed.symm

/-- One more pair is the last one of its name and leaves those of the others. -/
theorem lastNamed_concat {pair : String × α} :
    LastNamed (pairs ++ [pair]) name value ↔
      (name, value) = pair ∨ name ≠ pair.1 ∧ LastNamed pairs name value := by
  rw [← lookup_reverse_eq_some_iff_lastNamed, ← lookup_reverse_eq_some_iff_lastNamed,
    List.reverse_concat, lookup_cons_eq_ite, Prod.ext_iff]
  split
  · next h => simp [h, eq_comm]
  · next h => simp [h]

/-- What is made of the values one by one is found in their places. -/
theorem lookup_map (f : α → β) (pairs : List (String × α)) (name : String) :
    (pairs.map fun p => (p.1, f p.2)).lookup name = (pairs.lookup name).map f := by
  induction pairs with
  | nil => rfl
  | cons head rest ih =>
    rw [List.map_cons, lookup_cons_eq_ite, ih, lookup_cons_eq_ite, apply_ite (Option.map f)]
    rfl

theorem lastNamed_map {f : α → β} {image : β} :
    LastNamed (pairs.map fun p => (p.1, f p.2)) name image ↔
      ∃ value, LastNamed pairs name value ∧ f value = image := by
  rw [← lookup_reverse_eq_some_iff_lastNamed, ← List.map_reverse, lookup_map,
    Option.map_eq_some_iff]
  simp only [lookup_reverse_eq_some_iff_lastNamed]

/-- What is put in one after the other is found from the back, and what was there before after all
of it. -/
theorem get_foldl_put {σ : Type} {get : σ → String → Option α} {put : σ → String → α → σ}
    (h : ∀ s name other value,
      get (put s name value) other = if other = name then some value else get s other)
    (pairs : List (String × α)) (s : σ) (name : String) :
    get (pairs.foldl (fun s p => put s p.1 p.2) s) name =
      (pairs.reverse.lookup name).or (get s name) := by
  induction pairs generalizing s with
  | nil => rfl
  | cons head rest ih =>
    rw [List.foldl_cons, ih, h, List.reverse_cons, List.lookup_append, Option.or_assoc,
      lookup_cons_eq_ite]
    split <;> rfl

section Nodup

variable (h : (pairs.map Prod.fst).Nodup)
include h

theorem firstNamed_iff_mem : FirstNamed pairs name value ↔ (name, value) ∈ pairs := by
  constructor
  · rintro ⟨before, after, rfl, -⟩
    exact List.mem_append_right before List.mem_cons_self
  · intro hmem
    obtain ⟨before, after, rfl⟩ := List.append_of_mem hmem
    rw [List.map_append, List.map_cons, List.nodup_middle, List.nodup_cons, List.mem_append] at h
    refine ⟨before, after, rfl, fun earlier hearlier hname => ?_⟩
    exact h.1 (Or.inl (List.mem_map.mpr ⟨earlier, hearlier, hname⟩))

theorem lastNamed_iff_mem : LastNamed pairs name value ↔ (name, value) ∈ pairs := by
  have hreverse : (pairs.reverse.map Prod.fst).Nodup := by
    rwa [List.map_reverse, List.nodup_reverse]
  rw [← firstNamed_reverse, firstNamed_iff_mem hreverse, List.mem_reverse]

/-- From the back the same is found as from the front. -/
theorem lookup_reverse : pairs.reverse.lookup name = pairs.lookup name := by
  ext value
  rw [lookup_reverse_eq_some_iff_lastNamed, lookup_eq_some_iff_firstNamed, lastNamed_iff_mem h,
    firstNamed_iff_mem h]

end Nodup

end WideColumn
