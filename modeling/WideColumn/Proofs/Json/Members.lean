import WideColumn.Json.Basic
import WideColumn.Proofs.Naming

/-! # Members of objects

Members that are put into an object one after the other stand in the order of their names, each name
with its last value; where no name is repeated none is lost. -/

namespace WideColumn.Json

/-- Whether members stand in the code point order of their names, each name once. -/
def Ordered (members : List (String × Json)) : Prop := members.Pairwise fun a b => a.1 < b.1

/-- A member is the new one or was there before. -/
theorem mem_insertMember {name : String} {value : Json} {members : List (String × Json)}
    {m : String × Json} (h : m ∈ insertMember name value members) :
    m = (name, value) ∨ m ∈ members := by
  induction members with
  | nil => exact Or.inl (List.mem_singleton.mp h)
  | cons head rest ih =>
    rw [insertMember] at h
    split at h
    · exact List.mem_cons.mp h
    split at h
    · rcases List.mem_cons.mp h with h | h
      · exact Or.inl h
      · exact Or.inr (List.mem_cons_of_mem head h)
    · rcases List.mem_cons.mp h with rfl | h
      · exact Or.inr List.mem_cons_self
      · rcases ih h with h | h
        · exact Or.inl h
        · exact Or.inr (List.mem_cons_of_mem head h)

/-- Insertion keeps the order. -/
theorem Ordered.insertMember {members : List (String × Json)} (h : Ordered members) (name : String)
    (value : Json) : Ordered (Json.insertMember name value members) := by
  induction members with
  | nil => exact List.pairwise_singleton _ _
  | cons head rest ih =>
    obtain ⟨hhead, hrest⟩ := List.pairwise_cons.mp h
    rw [Json.insertMember]
    split
    · next hbefore =>
      refine List.pairwise_cons.mpr ⟨fun m hm => ?_, h⟩
      rcases List.mem_cons.mp hm with rfl | hm
      · exact hbefore
      · exact String.lt_trans hbefore (hhead m hm)
    split
    · next hsame =>
      exact List.pairwise_cons.mpr ⟨fun m hm => hsame ▸ hhead m hm, hrest⟩
    · next hnotBefore hother =>
      have hafter : head.1 < name := by
        rw [← String.not_le]
        exact fun hle => hother (String.le_antisymm hle (String.not_lt.mp hnotBefore))
      refine List.pairwise_cons.mpr ⟨fun m hm => ?_, ih hrest⟩
      rcases mem_insertMember hm with rfl | hm
      · exact hafter
      · exact hhead m hm

theorem Ordered.nodup {members : List (String × Json)} (h : Ordered members) :
    (members.map Prod.fst).Nodup := by
  refine List.pairwise_map.mpr (h.imp fun hlt heq => ?_)
  rw [heq] at hlt
  exact String.lt_irrefl _ hlt

/-- A member that is put in is found; the others are what they were. -/
theorem lookup_insertMember (name other : String) (value : Json) (members : List (String × Json)) :
    (insertMember name value members).lookup other =
      if other = name then some value else members.lookup other := by
  induction members with
  | nil => exact lookup_cons_eq_ite (name, value) [] other
  | cons head rest ih =>
    rw [insertMember]
    split
    · exact lookup_cons_eq_ite (name, value) (head :: rest) other
    split
    · next hsame =>
      rw [lookup_cons_eq_ite, lookup_cons_eq_ite, ← hsame]
      split <;> rfl
    · next hother =>
      rw [lookup_cons_eq_ite, ih, lookup_cons_eq_ite]
      by_cases h : other = head.1
      · rw [if_pos h, if_neg fun heq => hother (heq.symm.trans h), if_pos h]
      · rw [if_neg h, if_neg h]

/-- Members are in order however many are put in. -/
theorem Ordered.foldl_insertMember (members : List (String × Json))
    {sorted : List (String × Json)} (h : Ordered sorted) :
    Ordered (members.foldl (fun sorted m => Json.insertMember m.1 m.2 sorted) sorted) := by
  induction members generalizing sorted with
  | nil => exact h
  | cons head rest ih => exact ih (h.insertMember head.1 head.2)

/-- A name has the last value that it is given. -/
theorem member?_ofMembers (members : List (String × Json)) (name : String) :
    (ofMembers members).member? name = members.reverse.lookup name := by
  have hlast := @get_foldl_put Json (List (String × Json)) (fun sorted name => sorted.lookup name)
    (fun sorted name value => insertMember name value sorted)
    (fun sorted name other value => lookup_insertMember name other value sorted) members [] name
  exact hlast.trans Option.or_none

/-- **An object has the members it is made of,** in the order of their names, each name once and
with its last value. -/
theorem exists_ofMembers_eq (members : List (String × Json)) :
    ∃ sorted, ofMembers members = object sorted ∧ Ordered sorted ∧
      ∀ name value, (name, value) ∈ sorted ↔ LastNamed members name value := by
  have hordered := Ordered.foldl_insertMember members List.Pairwise.nil
  refine ⟨_, rfl, hordered, fun name value => ?_⟩
  rw [← firstNamed_iff_mem hordered.nodup, ← lookup_eq_some_iff_firstNamed,
    ← lookup_reverse_eq_some_iff_lastNamed, ← member?_ofMembers]
  rfl

/-- Where no name is repeated no member is lost. -/
theorem ofMembers_of_nodup {members : List (String × Json)} (h : (members.map Prod.fst).Nodup) :
    ∃ sorted, ofMembers members = object sorted ∧ Ordered sorted ∧ sorted.Perm members := by
  obtain ⟨sorted, hobject, hordered, hmem⟩ := exists_ofMembers_eq members
  refine ⟨sorted, hobject, hordered, ?_⟩
  rw [List.perm_ext_iff_of_nodup (.of_map _ hordered.nodup) (.of_map _ h)]
  intro member
  rw [← lastNamed_iff_mem h, ← hmem]

end WideColumn.Json
