import WideColumn.Proofs.Client.Run

/-! # Kept statements

The prepared statements of a client. Whatever is kept under a text, and whatever is executed under
it, is what the session made of that very text. -/

namespace WideColumn

variable {World Prepared : Type}

/-! ## Entries of the cache -/

namespace StatementCache

variable {cache : StatementCache Prepared} {cql : String} {statement : Prepared}

/-- A statement that is found is the entry of its text. -/
theorem mem_of_get? (h : cache.get? cql = some statement) : (cql, statement) ∈ cache.entries := by
  obtain ⟨before, after, hentries, -⟩ := List.lookup_eq_some_iff.mp h
  rw [hentries]
  exact List.mem_append_right _ List.mem_cons_self

theorem mem_of_mem_without {entries : List (String × Prepared)} {entry : String × Prepared}
    (h : entry ∈ without cql entries) : entry ∈ entries :=
  (List.mem_filter.mp h).1

/-- Using a statement touches none. -/
@[simp] theorem entries_touch (cache : StatementCache Prepared) (cql : String) :
    (cache.touch cql).entries = cache.entries := by
  unfold touch
  split <;> rfl

theorem mem_of_mem_trim {capacity : Nat} {entry : String × Prepared} (recency : List String) :
    ∀ entries : List (String × Prepared),
      entry ∈ (trim capacity entries recency).entries → entry ∈ entries := by
  induction recency with
  | nil =>
    intro entries h
    exact h
  | cons oldest rest ih =>
    intro entries h
    rw [trim] at h
    split at h
    · exact mem_of_mem_without (ih _ h)
    · exact h

/-- Making room brings in no statement. -/
theorem mem_of_mem_evict {entry : String × Prepared} (h : entry ∈ cache.evict.entries) :
    entry ∈ cache.entries := by
  unfold evict at h
  split at h
  · cases h
  · exact mem_of_mem_trim _ _ h

/-- Keeping a statement brings in that one at most. -/
theorem mem_of_mem_insert {entry : String × Prepared}
    (h : entry ∈ (cache.insert cql statement).entries) :
    entry ∈ cache.entries ∨ entry = (cql, statement) := by
  have hkept : entry ∈ (cql, statement) :: without cql cache.entries := by
    unfold insert at h
    split at h
    · simpa only [entries_touch] using mem_of_mem_evict h
    · exact mem_of_mem_evict h
  rcases List.mem_cons.mp hkept with rfl | hother
  · exact Or.inr rfl
  · exact Or.inl (mem_of_mem_without hother)

end StatementCache

/-- A new client has kept no statement yet. -/
theorem Client.eq_empty_of_new {config : Config} {uuids : UuidSource}
    {cache : StatementCache Prepared}
    (h : (new config uuids : Client Prepared).statements = some cache) :
    cache = { capacity := config.cacheCapacity } := by
  cases henabled : config.cacheEnabled with
  | false => simp [new, henabled] at h
  | true => simpa [new, henabled, eq_comm] using h

/-- A client that keeps a statement keeps no other new one. -/
theorem Client.mem_of_mem_keepStatement {c : Client Prepared} {cql : String} {statement : Prepared}
    {cache : StatementCache Prepared}
    (hcache : (c.keepStatement cql statement).statements = some cache)
    {entry : String × Prepared} (hentry : entry ∈ cache.entries) :
    (∃ before, c.statements = some before ∧ entry ∈ before.entries) ∨ entry = (cql, statement) := by
  cases hs : c.statements with
  | none =>
    simp only [keepStatement, hs] at hcache
    exact absurd hcache (by simp)
  | some before =>
    simp only [keepStatement, hs, Option.some.injEq] at hcache
    subst hcache
    rcases StatementCache.mem_of_mem_insert hentry with hentry | rfl
    · exact Or.inl ⟨before, rfl, hentry⟩
    · exact Or.inr rfl

/-! ## Statements and their texts -/

/-- Whether the statements that a client keeps, and those it executed, are what the session has
prepared from their texts. -/
structure Conversation.Genuine (c : Conversation World Prepared) : Prop where
  kept : ∀ cache, c.client.statements = some cache → ∀ entry ∈ cache.entries,
    .prepare entry.1 (.ok entry.2) ∈ c.calls
  executed : ∀ cql statement cells outcome, .execute cql statement cells outcome ∈ c.calls →
    .prepare cql (.ok statement) ∈ c.calls

namespace Conversation.Genuine

variable {db : Backend World Prepared} {c c' : Conversation World Prepared}

/-- Later calls, after which a client keeps no other statements than before and those it was given
just now, and executes none but those that have been prepared. -/
theorem advance (h : c.Genuine) (made : List (Call Prepared)) (hcalls : c'.calls = c.calls ++ made)
    (hkept : ∀ cache, c'.client.statements = some cache → ∀ entry ∈ cache.entries,
      (∃ before, c.client.statements = some before ∧ entry ∈ before.entries) ∨
        .prepare entry.1 (.ok entry.2) ∈ made)
    (hexecuted : ∀ cql statement cells outcome, .execute cql statement cells outcome ∈ made →
      .prepare cql (.ok statement) ∈ c.calls) : c'.Genuine where
  kept := by
    intro cache hcache entry hentry
    rw [hcalls]
    rcases hkept cache hcache entry hentry with ⟨before, hbefore, hmem⟩ | hmem
    · exact List.mem_append_left _ (h.kept before hbefore entry hmem)
    · exact List.mem_append_right _ hmem
  executed := by
    intro cql statement cells outcome hmem
    rw [hcalls] at hmem ⊢
    apply List.mem_append_left
    rcases List.mem_append.mp hmem with hmem | hmem
    · exact h.executed cql statement cells outcome hmem
    · exact hexecuted cql statement cells outcome hmem

/-- Calls that execute nothing, made by a client whose kept statements stay what they are. -/
theorem extend (h : c.Genuine) (made : List (Call Prepared))
    (hstatements : c'.client.statements = c.client.statements)
    (hcalls : c'.calls = c.calls ++ made)
    (hmade : ∀ cql statement cells outcome, .execute cql statement cells outcome ∉ made) :
    c'.Genuine := by
  refine h.advance made hcalls ?_ ?_
  · intro cache hcache entry hentry
    exact Or.inl ⟨cache, hstatements ▸ hcache, hentry⟩
  · intro cql statement cells outcome hmem
    exact absurd hmem (hmade cql statement cells outcome)

/-- One more call of a statement that the session has prepared. -/
theorem execute (h : c.Genuine) {cql : String} {statement : Prepared}
    (hprepared : .prepare cql (.ok statement) ∈ c.calls) (cells : List Cell)
    (outcome : Except Error ResultSet) (hstatements : c'.client.statements = c.client.statements)
    (hcalls : c'.calls = c.calls ++ [.execute cql statement cells outcome]) : c'.Genuine := by
  refine h.advance _ hcalls ?_ ?_
  · intro cache hcache entry hentry
    exact Or.inl ⟨cache, hstatements ▸ hcache, hentry⟩
  · intro cql' statement' cells' outcome' hmem
    cases List.mem_singleton.mp hmem
    exact hprepared

theorem connects {r : Except Error Unit} (conn : Client.Connects db c r c') (h : c.Genuine) :
    c'.Genuine := by
  cases conn with
  | ready hc => exact h
  | disabled hc => exact h
  | @opened world hc hw => exact h.extend [.connect (.ok ())] rfl (by simp) (by simp)
  | @refused error world hc hw =>
    exact h.extend [.connect (.error error)] rfl (by simp) (by simp)

theorem loads {table : String} {r : Except Error Unit} (load : Client.Loads db table c r c')
    (h : c.Genuine) : c'.Genuine := by
  cases load with
  | kept hc => exact h
  | @failed error world hc hw =>
    exact h.extend [.columns table (.error error)] rfl (by simp) (by simp)
  | missing hc hw => exact h.extend [.columns table (.ok [])] rfl (by simp) (by simp)
  | @loaded columns world hc hw hne =>
    exact h.extend [.columns table (.ok columns)] rfl (by simp) (by simp)

/-- A statement that is ready to be executed has been prepared from its text, now or before. -/
theorem prepares {cql : String} {r : Except Error Prepared} (prep : Client.Prepares db cql c r c')
    (h : c.Genuine) :
    c'.Genuine ∧ ∀ statement, r = .ok statement → .prepare cql (.ok statement) ∈ c'.calls := by
  cases prep with
  | @kept cache statement hcache hget =>
    have hprepared : .prepare cql (.ok statement) ∈ c.calls :=
      h.kept cache hcache _ (StatementCache.mem_of_get? hget)
    refine ⟨h.advance [] (by simp) ?_ (by simp), ?_⟩
    · intro cache' hcache' entry hentry
      cases hcache'
      rw [StatementCache.entries_touch] at hentry
      exact Or.inl ⟨cache, hcache, hentry⟩
    · rintro _ ⟨⟩
      exact hprepared
  | @refused error world hget hw =>
    refine ⟨?_, by rintro _ ⟨⟩⟩
    exact h.extend [.prepare cql (.error error)] rfl (by simp) (by simp)
  | @prepared statement world hget hw =>
    refine ⟨h.advance [.prepare cql (.ok statement)] (by simp) ?_ (by simp), ?_⟩
    · intro cache hcache entry hentry
      rcases Client.mem_of_mem_keepStatement hcache hentry with hbefore | rfl
      · exact Or.inl hbefore
      · exact Or.inr List.mem_cons_self
    · rintro _ ⟨⟩
      simp

theorem runs {operation : Option Operation} {cql : String} {cells : List Cell}
    {r : Except Error ResultSet} (run : Client.Runs db operation cql cells c r c')
    (h : c.Genuine) : c'.Genuine := by
  have hannounced : (Client.announced operation cql cells c).Genuine :=
    h.extend [] rfl (by simp [Client.announced]) (by simp)
  cases run with
  | unprepared prep => exact (prepares prep hannounced).1
  | @failed _ _ error _ prep hw =>
    obtain ⟨hgenuine, hprepared⟩ := prepares prep hannounced
    exact hgenuine.execute (hprepared _ rfl) cells (.error error) rfl (by simp)
  | @ran _ _ result _ prep hw =>
    obtain ⟨hgenuine, hprepared⟩ := prepares prep hannounced
    exact hgenuine.execute (hprepared _ rfl) cells (.ok result) rfl (by simp)

/-- Every part of a command keeps statements genuine. -/
theorem invariant (db : Backend World Prepared) :
    Invariant db fun c : Conversation World Prepared => c.Genuine where
  drift world h := ⟨h.kept, h.executed⟩
  rechain chain h := ⟨h.kept, h.executed⟩
  report notice h := h.extend [] rfl (by simp) (by simp)
  mint count h := ⟨h.kept, h.executed⟩
  connects := connects
  loads := loads
  runs := runs

end Conversation.Genuine

/-- **In every run, statements are what the session has prepared from their texts.** -/
theorem Run.genuine {db : Backend World Prepared} {history : List Entry}
    {c : Conversation World Prepared} (run : Run db history c) : c.Genuine := by
  refine (Conversation.Genuine.invariant db).run ?_ run
  intro config uuids world
  refine ⟨?_, by simp [Conversation.calls]⟩
  intro cache hcache entry hentry
  rw [Client.eq_empty_of_new hcache] at hentry
  cases hentry

end WideColumn
