import WideColumn.Proofs.Client.Failures
import WideColumn.Proofs.Client.KeptStatements
import WideColumn.Proofs.StatementCache.Recency

/-! # Statements used last

A client that keeps statements keeps those whose texts it used last, as many as it has room for. A
text is used when a statement for it is at hand, kept or prepared; whether it then executes well
does not matter. The session is asked to prepare exactly the texts that are not kept. -/

namespace WideColumn

variable {World Prepared : Type}

/-! ## Uses -/

/-- The texts that a client has used, the earliest first. A statement that is at hand is executed at
once, so the executions tell the uses. -/
def Conversation.uses (c : Conversation World Prepared) : List String := c.executions.map Prod.fst

theorem Conversation.uses_of_calls {c c' : Conversation World Prepared}
    {made : List (Call Prepared)} (h : c'.calls = c.calls ++ made) :
    c'.uses = c.uses ++ (made.filterMap Call.execution?).map Prod.fst := by
  rw [uses, uses, Conversation.executions_of_calls h, List.map_append]

namespace Client

variable {db : Backend World Prepared} {c c₁ c' : Conversation World Prepared} {cql : String}
  {uses : List String}

theorem Spares.uses_eq (h : Spares c c') : c'.uses = c.uses := by
  rw [Conversation.uses, h.executions_eq, ← Conversation.uses]

/-- Preparing a statement does not use it yet. -/
theorem Prepares.uses_eq {operation : Option Operation} {cells : List Cell}
    {r : Except Error Prepared} (h : Prepares db cql (announced operation cql cells c) r c') :
    c'.uses = c.uses := by
  rw [Conversation.uses, h.executions_eq, executions_announced, ← Conversation.uses]

/-- **A text is used exactly when a statement for it is at hand.** -/
theorem Runs.uses_eq {operation : Option Operation} {cells : List Cell}
    {r : Except Error ResultSet} (h : Runs db operation cql cells c r c') :
    (∃ statement c₁, Prepares db cql (announced operation cql cells c) (.ok statement) c₁ ∧
      c'.uses = c.uses ++ [cql] ∧ c'.client.statements = c₁.client.statements) ∨
    ∃ error, Prepares db cql (announced operation cql cells c) (.error error) c' ∧
      c'.uses = c.uses := by
  cases h with
  | unprepared prep =>
    exact Or.inr ⟨_, prep, prep.uses_eq⟩
  | @failed statement c₁ error world prep hw =>
    refine Or.inl ⟨statement, c₁, prep, ?_, rfl⟩
    rw [Conversation.uses_of_calls (Conversation.calls_append c₁ _ _ _), prep.uses_eq]
    rfl
  | @ran statement c₁ result world prep hw =>
    refine Or.inl ⟨statement, c₁, prep, ?_, rfl⟩
    rw [Conversation.uses_of_calls (Conversation.calls_append c₁ _ _ _), prep.uses_eq]
    rfl

/-! ## What is kept -/

/-- Whether a client keeps what was used last, provided that it is to keep statements at all. -/
structure KeepsRecent (uses : List String) (c : Client Prepared) : Prop where
  isSome_statements : c.statements.isSome = c.config.cacheEnabled
  holds : ∀ cache, c.statements = some cache →
    cache.capacity = c.config.cacheCapacity ∧ cache.HoldsRecent uses

namespace KeepsRecent

theorem congr {c c' : Client Prepared} (h : c.KeepsRecent uses)
    (hstatements : c'.statements = c.statements) (hconfig : c'.config = c.config) :
    c'.KeepsRecent uses where
  isSome_statements := by rw [hstatements, hconfig, h.isSome_statements]
  holds := by
    intro cache hcache
    rw [hconfig]
    exact h.holds cache (hstatements ▸ hcache)

theorem new (config : Config) (uuids : UuidSource) :
    (Client.new config uuids : Client Prepared).KeepsRecent [] where
  isSome_statements := by
    cases h : config.cacheEnabled <;> simp [Client.new, h]
  holds := by
    intro cache hcache
    rw [eq_empty_of_new hcache]
    exact ⟨rfl, by simp, .nil⟩

/-- A statement at hand, kept or prepared, makes its text the one used last. -/
theorem prepares {statement : Prepared} (prep : Prepares db cql c (.ok statement) c')
    (h : c.client.KeepsRecent uses) : c'.client.KeepsRecent (uses ++ [cql]) := by
  cases prep with
  | @kept cache _ hcache hget =>
    obtain ⟨hcapacity, hholds⟩ := h.holds cache hcache
    refine ⟨?_, ?_⟩
    · show true = c.client.config.cacheEnabled
      rw [← h.isSome_statements, hcache]
      rfl
    · rintro _ ⟨⟩
      have htext : cql ∈ cache.texts := StatementCache.isSome_get?_iff.mp (by rw [hget]; rfl)
      refine ⟨?_, hholds.touch htext⟩
      rw [StatementCache.capacity_touch]
      exact hcapacity
  | @prepared _ world hget hw =>
    show (c.client.keepStatement cql statement).KeepsRecent (uses ++ [cql])
    cases hs : c.client.statements with
    | none =>
      have henabled := h.isSome_statements
      rw [hs] at henabled
      simp only [keepStatement, hs]
      exact ⟨henabled, by rintro _ ⟨⟩⟩
    | some cache =>
      obtain ⟨hcapacity, hholds⟩ := h.holds cache hs
      have henabled := h.isSome_statements
      rw [hs] at henabled
      obtain ⟨hinsert, hroom⟩ := hholds.insert cql statement
      simp only [keepStatement, hs]
      refine ⟨henabled, ?_⟩
      rintro _ ⟨⟩
      exact ⟨hroom.trans hcapacity, hinsert⟩

theorem runs {operation : Option Operation} {cells : List Cell} {r : Except Error ResultSet}
    (run : Runs db operation cql cells c r c') (h : c.client.KeepsRecent c.uses) :
    c'.client.KeepsRecent c'.uses := by
  have hannounced : (announced operation cql cells c).client.KeepsRecent c.uses :=
    h.congr rfl rfl
  obtain ⟨statements, stats, hclient⟩ := run.client_eq
  have hconfig : c'.client.config = c.client.config := by rw [hclient]
  rcases run.uses_eq with ⟨statement, c₁, prep, huses, hstatements⟩ | ⟨error, prep, huses⟩
  -- What is kept changes with the preparation; the use is seen by the execution after it.
  · obtain ⟨statements₁, stats₁, hclient₁⟩ := prep.client_eq
    have hconfig₁ : c₁.client.config = c.client.config := by rw [hclient₁]; rfl
    rw [huses]
    exact (prepares prep hannounced).congr hstatements (hconfig.trans hconfig₁.symm)
  · rw [huses]
    cases prep with
    | refused hget hw => exact h.congr rfl rfl

/-- Every part of a command keeps the statements in line with the uses. -/
theorem invariant (db : Backend World Prepared) :
    Invariant db fun c : Conversation World Prepared => c.client.KeepsRecent c.uses where
  drift world h := h
  rechain chain h := h.congr rfl rfl
  report notice h := by
    rw [Conversation.uses_of_calls (Conversation.calls_append _ _ _ _)]
    simpa [List.filterMap_cons] using h
  mint count h := h.congr rfl rfl
  connects := by
    intro c r c' conn h
    obtain ⟨connection, hclient⟩ := conn.client_eq
    rw [conn.spares.uses_eq]
    exact h.congr conn.spares.statements_eq (by rw [hclient])
  loads := by
    intro table c r c' load h
    obtain ⟨schemas, stats, hclient⟩ := load.client_eq
    rw [load.spares.uses_eq]
    exact h.congr load.spares.statements_eq (by rw [hclient])
  runs := runs

end KeepsRecent

/-! ## What is prepared -/

/-- The session is asked for a statement that is not kept, and for no other. -/
theorem Prepares.prepare_mem_iff {r : Except Error Prepared} (h : Prepares db cql c r c')
    {made : List (Call Prepared)} (hmade : c'.calls = c.calls ++ made)
    {cache : StatementCache Prepared} (hs : c.client.statements = some cache) :
    (∃ outcome, .prepare cql outcome ∈ made) ↔ cql ∉ cache.texts := by
  have hmissed (hget : c.client.statements.bind (·.get? cql) = none) : cql ∉ cache.texts := by
    rw [← StatementCache.isSome_get?_iff]
    rw [hs, Option.bind_some] at hget
    simp [hget]
  cases h with
  | @kept _ statement hcache hget =>
    have hnone : made = [] := List.append_cancel_left (hmade.symm.trans (by simp))
    cases hcache.symm.trans hs
    have htext : cql ∈ cache.texts := StatementCache.isSome_get?_iff.mp (by rw [hget]; rfl)
    simp [hnone, htext]
  | @refused error world hget hw =>
    have hone : made = [.prepare cql (.error error)] :=
      List.append_cancel_left (hmade.symm.trans (by simp))
    simp [hone, hmissed hget]
  | @prepared statement world hget hw =>
    have hone : made = [.prepare cql (.ok statement)] :=
      List.append_cancel_left (hmade.symm.trans (by simp))
    simp [hone, hmissed hget]

theorem Runs.prepare_mem_iff {operation : Option Operation} {cells : List Cell}
    {r : Except Error ResultSet} (h : Runs db operation cql cells c r c')
    {made : List (Call Prepared)} (hmade : c'.calls = c.calls ++ made)
    {cache : StatementCache Prepared} (hs : c.client.statements = some cache) :
    (∃ outcome, .prepare cql outcome ∈ made) ↔ cql ∉ cache.texts := by
  have hannounced : (announced operation cql cells c).calls = c.calls := by simp [announced]
  have hs' : (announced operation cql cells c).client.statements = some cache := hs
  cases h with
  | unprepared prep => exact prep.prepare_mem_iff (by rw [hmade, hannounced]) hs'
  | @failed statement c₁ error world prep hw | @ran statement c₁ result world prep hw =>
    -- Behind the preparation there is only the execution.
    obtain ⟨before, hbefore, -⟩ := prep.continues
    have hcalls := hbefore.calls_eq
    rw [← prep.prepare_mem_iff hcalls hs']
    rw [Conversation.calls_append, hcalls, hannounced, List.append_assoc] at hmade
    simp [← List.append_cancel_left hmade]

theorem spares_mintedFor (c : Conversation World Prepared) (count : Nat) :
    Spares c (mintedFor count c) where
  calls := ⟨[], (List.append_nil _).symm, by simp⟩
  statements_eq := rfl
  stats_eq := ⟨c.client.stats.schemaRefreshes, rfl⟩

/-- The same for a statement that goes to the session after other things have been seen to. -/
theorem Spares.prepare_mem_iff (spares : Spares c c₁) {operation : Option Operation}
    {text : String} {cells : List Cell} {r : Except Error ResultSet}
    (run : Runs db operation text cells c₁ r c') {made : List (Call Prepared)}
    (hmade : c'.calls = c.calls ++ made) {call : Call Prepared} (hcall : call ∈ made)
    (hcql : call.cql? = some cql) {cache : StatementCache Prepared}
    (hs : c.client.statements = some cache) :
    (∃ outcome, .prepare cql outcome ∈ made) ↔ cql ∉ cache.texts := by
  obtain ⟨before, hbefore, hnone⟩ := spares.calls
  obtain ⟨after, hafter, hruns, -⟩ := run.continues
  have heq : made = before ++ after := by
    apply List.append_cancel_left (hmade.symm.trans _)
    rw [hafter.calls_eq, hbefore, List.append_assoc]
  subst heq
  -- The one statement of the calls is the one that is run.
  have htext : text = cql := by
    rcases List.mem_append.mp hcall with h | h
    · cases (hnone call h).symm.trans hcql
    · exact Option.some.inj ((hruns call h).cql?_eq.symm.trans hcql)
  subst htext
  rw [← run.prepare_mem_iff hafter.calls_eq (spares.statements_eq.trans hs)]
  refine exists_congr fun outcome => ?_
  rw [List.mem_append, or_iff_right]
  intro h
  cases hnone _ h

end Client

theorem Action.calls_modifyClient (f : Client Prepared → Client Prepared)
    (c : Conversation World Prepared) : (modifyClient f).calls c = [] :=
  calls_eq (List.append_nil _).symm

/-- **A command has a text prepared exactly when its statement is not kept.** -/
theorem Command.prepare_mem_iff {db : Backend World Prepared} {command : Command}
    {c : Conversation World Prepared} {cache : StatementCache Prepared}
    (hs : c.client.statements = some cache) {call : Call Prepared}
    (hcall : call ∈ (command.act db).calls c) {cql : String} (hcql : call.cql? = some cql) :
    (∃ outcome, .prepare cql outcome ∈ (command.act db).calls c) ↔ cql ∉ cache.texts := by
  rw [Command.act, Action.calls_discard] at hcall ⊢
  cases command with
  -- Only statements and operations make calls at all.
  | filter f | reset =>
    change call ∈ (Action.modifyClient _).calls c at hcall
    rw [Action.calls_modifyClient] at hcall
    cases hcall
  | compile request =>
    have hcalls : (((compile request).carryOut db).runOn c).2.calls = c.calls ++ [] := by
      rw [runOn_compile, List.append_nil]
    rw [Action.calls_eq hcalls] at hcall
    cases hcall
  | rawQuery text =>
    change call ∈ (Client.rawQuery db text).calls c at hcall
    show (∃ outcome, .prepare cql outcome ∈ (Client.rawQuery db text).calls c) ↔ _
    obtain ⟨r, hquery, -⟩ := Client.queries db text c
    cases hquery with
    | unconnected conn =>
      obtain ⟨made, hmade, hnone⟩ := conn.spares.calls
      rw [Action.calls_eq hmade] at hcall
      cases (hnone call hcall).symm.trans hcql
    | ran conn run =>
      obtain ⟨before, hbefore, -⟩ := conn.spares.calls
      obtain ⟨after, hafter, -⟩ := run.continues
      have hmade := hafter.calls_eq
      rw [hbefore, List.append_assoc] at hmade
      rw [Action.calls_eq hmade] at hcall ⊢
      exact conn.spares.prepare_mem_iff run hmade hcall hcql hs
  | finish t =>
    change call ∈ (t.carryOut db).calls c at hcall
    show (∃ outcome, .prepare cql outcome ∈ (t.carryOut db).calls c) ↔ _
    have hmade := (t.continues db c).calls_eq
    rw [t.calls_act] at hmade
    rcases (Client.executes db t.request c).silent_or_ran with ⟨made, hsilent, hnone⟩ |
      ⟨query, cells, c₁, c₂, made, conn, find, -, run, -, -⟩
    · rw [hsilent.made_eq hmade] at hcall
      cases (hnone call hcall).symm.trans hcql
    · have hspares := (conn.spares.trans find.spares).trans
        (Client.spares_mintedFor c₂ query.params.size)
      exact hspares.prepare_mem_iff run hmade hcall hcql hs

/-- **A client that keeps statements keeps those used last.** In every state of a run its texts are
the first ones of the history of uses read backwards, as many as it has room for: the order of use
has each of them once, the one used last at its end, and the statements are those of these texts.
The next statement is prepared exactly when its text is none of them, whether it is run by itself or
as part of a command. -/
theorem Run.keeps_recentTexts {db : Backend World Prepared} {history : List Entry}
    {c : Conversation World Prepared} (run : Run db history c)
    (henabled : c.client.config.cacheEnabled = true) :
    let kept := (recentTexts c.uses).take c.client.config.cacheCapacity
    (∃ cache, c.client.statements = some cache ∧ cache.recency.reverse = kept ∧
      cache.recency.Nodup ∧ cache.texts.Perm cache.recency) ∧
    c.client.cachedStatements = min c.client.config.cacheCapacity c.uses.toFinset.card ∧
    (∀ operation cql cells,
      (∃ outcome, .prepare cql outcome ∈ (Client.runStatement db operation cql cells).calls c) ↔
        cql ∉ kept) ∧
    ∀ command : Command, ∀ call ∈ (command.act db).calls c, ∀ cql, call.cql? = some cql →
      ((∃ outcome, .prepare cql outcome ∈ (command.act db).calls c) ↔ cql ∉ kept) := by
  intro kept
  have hkeeps := (Client.KeepsRecent.invariant db).run (fun config uuids world => .new config uuids)
    run
  have hsome : c.client.statements.isSome = true := hkeeps.isSome_statements.trans henabled
  obtain ⟨cache, hcache⟩ := Option.isSome_iff_exists.mp hsome
  obtain ⟨hcapacity, hrecent⟩ := hkeeps.holds cache hcache
  have hkept : cache.recency.reverse = kept := by
    rw [hrecent.reverse_recency, hcapacity]
  have hmem (cql : String) : cql ∉ cache.texts ↔ cql ∉ kept := by
    rw [hrecent.texts_perm.mem_iff, ← hkept, List.mem_reverse]
  refine ⟨⟨cache, hcache, hkept, hrecent.nodup_recency, hrecent.texts_perm⟩, ?_, ?_, ?_⟩
  · rw [Client.cachedStatements, hcache, ← hcapacity]
    exact hrecent.size_eq
  · intro operation cql cells
    have run := Client.runs db operation cql cells c
    obtain ⟨made, hmade, -⟩ := run.continues
    rw [Action.calls_eq hmade.calls_eq, run.prepare_mem_iff hmade.calls_eq hcache, hmem]
  · intro command call hcall cql hcql
    rw [Command.prepare_mem_iff hcache hcall hcql, hmem]

/-- With room for two, the third text drives out the one that was not used again. -/
theorem Run.keeps_recentTexts_two :
    ∃ (history : List Entry) (c : Conversation Memory String), Run Memory.backend history c ∧
      c.client.config.cacheEnabled = true ∧ c.uses = ["a", "b", "a", "c"] ∧
      c.client.cachedStatements = 2 ∧ ∃ cache, c.client.statements = some cache ∧
        cache.recency.reverse = ["c", "a"] := by
  let config : Config := { cacheCapacity := 2 }
  have start : Run Memory.backend [] (Conversation.fresh config {}) :=
    .start config default ({} : Memory)
  have run := (((start.step (.rawQuery "a")).step (.rawQuery "b")).step (.rawQuery "a")).step
    (.rawQuery "c")
  obtain ⟨⟨cache, hcache, hrecency, -⟩, hsize, -⟩ := Run.keeps_recentTexts run (by decide +kernel)
  refine ⟨_, _, run, ?_, ?_, ?_, cache, hcache, ?_⟩
  · decide +kernel
  · decide +kernel
  · rw [hsize]
    decide +kernel
  · rw [hrecency]
    decide +kernel

end WideColumn
