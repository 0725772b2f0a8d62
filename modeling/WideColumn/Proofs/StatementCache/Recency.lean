import Mathlib.Data.Finset.Card
import WideColumn.Proofs.Naming
import WideColumn.StatementCache

/-! # Least recently used

A cache against the history of the texts that were used. The order of last use is told by the
history alone: read backwards, each text counts where it is met first. A cache holds the beginning
of that list, as far as it has room, and `touch` and `insert` go along with one more use. -/

namespace WideColumn

/-! ## Lists without repetitions -/

section Lists

variable {α : Type} [DecidableEq α]

-- Repetitions of the head go before the rest is looked at, so these recursions are on the length.

theorem nodup_eraseDups : (l : List α) → l.eraseDups.Nodup
  | [] => List.nodup_nil
  | a :: rest => by
    rw [List.eraseDups_cons, List.nodup_cons]
    exact ⟨by simp [List.mem_eraseDups], nodup_eraseDups (rest.filter fun b => !b == a)⟩
termination_by l => l.length
decreasing_by exact Nat.lt_succ_of_le (List.length_filter_le _ _)

/-- Dropping elements of a kind and dropping repetitions can be done in any order. -/
theorem eraseDups_filter (p : α → Bool) : (l : List α) →
    (l.filter p).eraseDups = l.eraseDups.filter p
  | [] => rfl
  | a :: rest => by
    have ih := eraseDups_filter p (rest.filter fun b => !b == a)
    rw [List.filter_filter] at ih
    rw [List.eraseDups_cons, List.filter_cons, List.filter_cons, ← ih]
    cases hp : p a with
    | true =>
      rw [if_pos rfl, if_pos rfl, List.eraseDups_cons, List.filter_filter]
      simp only [Bool.and_comm]
    | false =>
      have hsame : (rest.filter fun b => p b && !b == a) = rest.filter p := by
        refine List.filter_congr fun b _ => ?_
        by_cases hb : b = a
        · simp [hb, hp]
        · simp [hb]
      rw [if_neg (by simp), if_neg (by simp), hsame]
termination_by l => l.length
decreasing_by exact Nat.lt_succ_of_le (List.length_filter_le _ _)

/-- An element taken from behind the first ones leaves these as they are; taken from among them, it
lets the next one in. -/
theorem take_cons_erase (a : α) (n : Nat) (l : List α) :
    (a :: (l.take n).erase a).take n = (a :: l.erase a).take n := by
  induction l generalizing n with
  | nil => simp
  | cons b rest ih =>
    cases n with
    | zero => rfl
    | succ n =>
      by_cases hb : b = a
      · subst hb
        simp [List.take_take]
      · have herase : ∀ l : List α, (b :: l).erase a = b :: l.erase a := fun l =>
          List.erase_cons_tail (by simp [hb])
        cases n with
        | zero => simp
        | succ n =>
          -- Behind `b` the same question is left, for one place less.
          have hrest := ih (n + 1)
          simp only [List.take_succ_cons, herase, List.cons.injEq, true_and] at hrest ⊢
          exact hrest

end Lists

/-! ## Histories of uses -/

/-- The texts of a history of uses, each of them once, the most recently used one first. -/
def recentTexts (uses : List String) : List String := uses.reverse.eraseDups

@[simp] theorem recentTexts_nil : recentTexts [] = [] := rfl

theorem nodup_recentTexts (uses : List String) : (recentTexts uses).Nodup := nodup_eraseDups _

/-- One more use puts its text in front and leaves the order of the others alone. -/
theorem recentTexts_append (uses : List String) (text : String) :
    recentTexts (uses ++ [text]) = text :: (recentTexts uses).erase text := by
  unfold recentTexts
  rw [List.reverse_append, List.reverse_singleton, List.singleton_append, List.eraseDups_cons,
    eraseDups_filter, (nodup_eraseDups _).erase_eq_filter]
  rfl

theorem length_recentTexts (uses : List String) :
    (recentTexts uses).length = uses.toFinset.card := by
  rw [← List.toFinset_card_of_nodup (nodup_recentTexts uses)]
  congr 1
  ext text
  simp [recentTexts, List.mem_eraseDups]

/-! ## Caches -/

namespace StatementCache

variable {Prepared : Type} {cache : StatementCache Prepared} {uses : List String} {cql : String}

theorem isSome_get?_iff : (cache.get? cql).isSome = true ↔ cql ∈ cache.texts := by
  rw [← not_iff_not, Option.not_isSome_iff_eq_none]
  exact lookup_eq_none_iff_not_mem

@[simp] theorem capacity_touch (cache : StatementCache Prepared) (cql : String) :
    (cache.touch cql).capacity = cache.capacity := by
  unfold touch
  split <;> rfl

/-- Whether a cache holds the texts that were used last, as many as it has room for. -/
structure HoldsRecent (cache : StatementCache Prepared) (uses : List String) : Prop where
  /-- The order of use is that of the history. -/
  reverse_recency : cache.recency.reverse = (recentTexts uses).take cache.capacity
  /-- The texts in it are those of the statements. -/
  texts_perm : cache.texts.Perm cache.recency

namespace HoldsRecent

theorem nodup_recency (h : cache.HoldsRecent uses) : cache.recency.Nodup := by
  rw [← List.nodup_reverse, h.reverse_recency]
  exact (nodup_recentTexts uses).sublist (List.take_sublist _ _)

theorem size_eq (h : cache.HoldsRecent uses) :
    cache.size = min cache.capacity uses.toFinset.card := by
  have hlength : cache.size = cache.recency.reverse.length := by
    rw [List.length_reverse, ← h.texts_perm.length_eq, texts, List.length_map, size]
  rw [hlength, h.reverse_recency, List.length_take, length_recentTexts]

/-- The order of use with one text moved to its end, read backwards. -/
theorem reverse_moved (h : cache.HoldsRecent uses) (cql : String) :
    (cache.recency.erase cql ++ [cql]).reverse =
      cql :: ((recentTexts uses).take cache.capacity).erase cql := by
  have hnodup : ((recentTexts uses).take cache.capacity).Nodup :=
    (nodup_recentTexts uses).sublist (List.take_sublist _ _)
  rw [List.reverse_append, List.reverse_singleton, List.singleton_append,
    h.nodup_recency.erase_eq_filter, ← List.filter_reverse, h.reverse_recency,
    hnodup.erase_eq_filter]

/-- **A use of a text that is there.** -/
theorem touch (h : cache.HoldsRecent uses) (hcql : cql ∈ cache.texts) :
    (cache.touch cql).HoldsRecent (uses ++ [cql]) := by
  have hmem : cql ∈ cache.recency := h.texts_perm.mem_iff.mp hcql
  rw [StatementCache.touch, if_pos hmem]
  constructor
  · show (cache.recency.erase cql ++ [cql]).reverse = _
    have hmem' : cql ∈ (recentTexts uses).take cache.capacity := by
      rw [← h.reverse_recency]
      exact List.mem_reverse.mpr hmem
    -- The text comes back for its own place, so the list is no longer than it was.
    have hlength : (cql :: ((recentTexts uses).take cache.capacity).erase cql).length ≤
        cache.capacity := by
      rw [List.length_cons, List.length_erase_of_mem hmem',
        Nat.sub_add_cancel (List.length_pos_of_mem hmem')]
      exact List.length_take_le _ _
    rw [h.reverse_moved, recentTexts_append]
    show _ = (cql :: (recentTexts uses).erase cql).take cache.capacity
    rw [← take_cons_erase, List.take_of_length_le hlength]
  · show cache.texts.Perm (cache.recency.erase cql ++ [cql])
    have hmoved : cache.recency.Perm (cache.recency.erase cql ++ [cql]) :=
      (List.perm_cons_erase hmem).trans (List.perm_append_singleton _ _).symm
    exact h.texts_perm.trans hmoved

end HoldsRecent

/-- What making room leaves: the end of the order of use, and the statements of its texts. -/
theorem trim_spec {capacity : Nat} (recency : List String) :
    ∀ entries : List (String × Prepared), (entries.map Prod.fst).Perm recency → recency.Nodup →
      (trim capacity entries recency).capacity = capacity ∧
      (trim capacity entries recency).recency = recency.drop (recency.length - capacity) ∧
      (trim capacity entries recency).texts.Perm (trim capacity entries recency).recency := by
  induction recency with
  | nil =>
    intro entries hperm _
    exact ⟨rfl, by simp [trim], hperm⟩
  | cons oldest rest ih =>
    intro entries hperm hnodup
    have hlength : entries.length = rest.length + 1 := by
      rw [← List.length_map, hperm.length_eq, List.length_cons]
    have hnotin : oldest ∉ rest := (List.nodup_cons.mp hnodup).1
    rw [trim]
    split
    · next hover =>
      have hrest : ((without oldest entries).map Prod.fst).Perm rest := by
        have hself : (rest.filter fun text => decide (text ≠ oldest)) = rest := by
          rw [List.filter_eq_self]
          intro text htext
          simpa using fun heq : text = oldest => hnotin (heq ▸ htext)
        have hfilter := hperm.filter fun text => decide (text ≠ oldest)
        rwa [List.filter_cons_of_neg (by simp), hself, ← map_fst_without] at hfilter
      obtain ⟨hcapacity, hrecency, htexts⟩ := ih _ hrest (List.nodup_cons.mp hnodup).2
      refine ⟨hcapacity, ?_, htexts⟩
      have hsub : (oldest :: rest).length - capacity = rest.length - capacity + 1 := by
        rw [List.length_cons]
        omega
      rw [hrecency, hsub, List.drop_succ_cons]
    · next hroom =>
      refine ⟨rfl, ?_, hperm⟩
      have hsub : (oldest :: rest).length - capacity = 0 := by
        rw [List.length_cons]
        omega
      rw [hsub, List.drop_zero]

theorem evict_spec (hperm : cache.texts.Perm cache.recency) (hnodup : cache.recency.Nodup) :
    cache.evict.capacity = cache.capacity ∧
      cache.evict.recency.reverse = cache.recency.reverse.take cache.capacity ∧
      cache.evict.texts.Perm cache.evict.recency := by
  unfold evict
  split
  · next hzero => exact ⟨rfl, by simp [hzero], .nil⟩
  · obtain ⟨hcapacity, hrecency, htexts⟩ := trim_spec cache.recency cache.entries hperm hnodup
    refine ⟨hcapacity, ?_, htexts⟩
    rw [hrecency, List.take_reverse]

/-- Keeping a statement moves its text to the end of the order of use, wherever it was before, and
then makes room. -/
theorem insert_eq (hperm : cache.texts.Perm cache.recency) (cql : String) (statement : Prepared) :
    cache.insert cql statement =
      { cache with
        entries := (cql, statement) :: without cql cache.entries
        recency := cache.recency.erase cql ++ [cql] }.evict := by
  unfold insert
  split
  · next hget =>
    have hmem : cql ∈ cache.recency := hperm.mem_iff.mp (isSome_get?_iff.mp hget)
    exact congrArg evict (if_pos hmem)
  · next hget =>
    have hmem : cql ∉ cache.recency := fun h => hget (isSome_get?_iff.mpr (hperm.mem_iff.mpr h))
    rw [List.erase_of_not_mem hmem]

namespace HoldsRecent

/-- **A use of a text whose statement comes from the session.** -/
theorem insert (h : cache.HoldsRecent uses) (cql : String) (statement : Prepared) :
    (cache.insert cql statement).HoldsRecent (uses ++ [cql]) ∧
      (cache.insert cql statement).capacity = cache.capacity := by
  rw [insert_eq h.texts_perm]
  set moved : StatementCache Prepared :=
    { cache with
      entries := (cql, statement) :: without cql cache.entries
      recency := cache.recency.erase cql ++ [cql] } with hmoved
  have hperm : moved.texts.Perm moved.recency := by
    show (cql :: (without cql cache.entries).map Prod.fst).Perm (cache.recency.erase cql ++ [cql])
    refine List.Perm.trans ?_ (List.perm_append_singleton _ _).symm
    rw [map_fst_without, h.nodup_recency.erase_eq_filter]
    have hfilter := h.texts_perm.filter fun text => decide (text ≠ cql)
    exact (hfilter.trans (List.Perm.of_eq (List.filter_congr fun text _ => by
      by_cases heq : text = cql <;> simp [heq]))).cons cql
  have hnodup : moved.recency.Nodup := by
    show (cache.recency.erase cql ++ [cql]).Nodup
    rw [(List.perm_append_singleton _ _).nodup_iff, List.nodup_cons]
    exact ⟨fun hmem => (h.nodup_recency.mem_erase_iff.mp hmem).1 rfl, h.nodup_recency.erase cql⟩
  obtain ⟨hcapacity, hrecency, htexts⟩ := evict_spec hperm hnodup
  -- Making room keeps the end of the order of use, which is the front of the texts read backwards.
  refine ⟨⟨?_, htexts⟩, hcapacity⟩
  have hreverse : moved.recency.reverse = _ := h.reverse_moved cql
  rw [hrecency, hreverse, hcapacity, recentTexts_append]
  exact take_cons_erase cql cache.capacity (recentTexts uses)

end HoldsRecent

end StatementCache

end WideColumn
