import WideColumn.Proofs.Client.Retry

/-! # Failing before the statement

A request that fails otherwise than by its statement has not come as far as the session: nothing has
been prepared or executed, the statements that are kept stay in their order, and nothing but answers
of the catalog has been counted. A request that succeeds has executed its statement once. -/

namespace WideColumn

variable {World Prepared : Type}

namespace Call

/-- Whether a call has a statement prepared. -/
def isPrepare : Call Prepared → Bool
  | prepare _ _ => true
  | connect _ | columns _ _ | execute _ _ _ _ => false

/-- Whether a call executes a statement. -/
def isExecute : Call Prepared → Bool
  | execute _ _ _ _ => true
  | connect _ | columns _ _ | prepare _ _ => false

/-- A call without a statement neither prepares nor executes one. -/
theorem isPrepare_of_cql?_eq_none {call : Call Prepared} (h : call.cql? = none) :
    call.isPrepare = false ∧ call.isExecute = false := by
  cases call with
  | connect outcome | columns table outcome => exact ⟨rfl, rfl⟩
  | prepare cql outcome | execute cql statement cells outcome => cases h

end Call

namespace Client

variable {db : Backend World Prepared} {c c₁ c' : Conversation World Prepared}
  {table cql : String} {request : Request}

/-! ## Up to the statement -/

/-- From one conversation to a later one without a statement: none went to the session, and those
that are kept and the counts of them are what they were. -/
structure Spares (c c' : Conversation World Prepared) : Prop where
  calls : ∃ made, c'.calls = c.calls ++ made ∧ ∀ call ∈ made, call.cql? = none
  statements_eq : c'.client.statements = c.client.statements
  /-- Answers of the catalog are counted. -/
  stats_eq : ∃ refreshes, c'.client.stats = { c.client.stats with schemaRefreshes := refreshes }

namespace Spares

theorem refl (c : Conversation World Prepared) : Spares c c where
  calls := ⟨[], by simp, by simp⟩
  statements_eq := rfl
  stats_eq := ⟨c.client.stats.schemaRefreshes, rfl⟩

theorem trans (h₁ : Spares c c₁) (h₂ : Spares c₁ c') : Spares c c' where
  calls := by
    obtain ⟨made₁, hcalls₁, hnone₁⟩ := h₁.calls
    obtain ⟨made₂, hcalls₂, hnone₂⟩ := h₂.calls
    refine ⟨made₁ ++ made₂, ?_, List.forall_mem_append.mpr ⟨hnone₁, hnone₂⟩⟩
    rw [hcalls₂, hcalls₁, List.append_assoc]
  statements_eq := h₂.statements_eq.trans h₁.statements_eq
  stats_eq := by
    obtain ⟨refreshes₁, hstats₁⟩ := h₁.stats_eq
    obtain ⟨refreshes₂, hstats₂⟩ := h₂.stats_eq
    exact ⟨refreshes₂, by rw [hstats₂, hstats₁]⟩

/-- Nothing has been executed. -/
theorem executions_eq (h : Spares c c') : c'.executions = c.executions := by
  obtain ⟨made, hcalls, hnone⟩ := h.calls
  have hmade : made.filterMap Call.execution? = [] := by
    rw [List.filterMap_eq_nil_iff]
    intro call hcall
    cases call with
    | connect outcome | columns table outcome | prepare cql outcome => rfl
    | execute cql statement cells outcome => cases hnone _ hcall
  rw [Conversation.executions_of_calls hcalls, hmade, List.append_nil]

end Spares

theorem Connects.spares {r : Except Error Unit} (h : Connects db c r c') : Spares c c' := by
  obtain ⟨connection, hclient⟩ := h.client_eq
  obtain ⟨made, hmade, hnone⟩ := h.continues
  refine ⟨⟨made, hmade.calls_eq, hnone⟩, ?_, c.client.stats.schemaRefreshes, ?_⟩
  · rw [hclient]
  · rw [hclient]

theorem Loads.spares {r : Except Error Unit} (h : Loads db table c r c') : Spares c c' := by
  obtain ⟨made, hmade, hnone⟩ := h.continues
  refine ⟨⟨made, hmade.calls_eq, hnone⟩, ?_, ?_⟩
  · cases h <;> rfl
  -- The catalog is counted as soon as it answers, even if it has no columns for the table.
  · cases h with
    | kept h | failed h hw => exact ⟨_, rfl⟩
    | missing h hw | loaded h hw hne => exact ⟨c.client.stats.schemaRefreshes + 1, rfl⟩

theorem Finds.spares {r : Except Error Query} (h : Finds db request c r c') : Spares c c' := by
  cases h with
  | unloaded load hp => exact load.spares
  | uncompiled load h =>
    rcases load with rfl | load
    · exact .refl _
    · exact load.spares
  | unbound hs h hp => exact .refl _
  | loaded load h hp => exact load.spares

/-- What running a statement fails with is an error of the session. -/
theorem Runs.isSessionError_eq {operation : Option Operation} {cells : List Cell} {error : Error}
    (h : Runs db operation cql cells c (.error error) c') : error.isSessionError = true := by
  obtain ⟨made, -, hruns, -, hfailed⟩ := h.continues
  obtain ⟨call, hcall, herror⟩ := hfailed error rfl
  exact (hruns call hcall).isSessionError_eq herror

/-- **A request that fails otherwise than by its statement touches no statement.** -/
theorem Executes.spares {error : Error} (h : Executes db request c (.error error) c')
    (hsession : error.isSessionError = false) : Spares c c' := by
  cases h with
  | unconnected conn => exact conn.spares
  | unfound conn find => exact conn.spares.trans find.spares
  | unbound conn find bind => exact conn.spares.trans find.spares
  | ran conn find bind run => cases hsession.symm.trans run.isSessionError_eq

/-! ## Running the statement -/

theorem Prepares.calls_of_ok {statement : Prepared} (h : Prepares db cql c (.ok statement) c') :
    ∃ made, c'.calls = c.calls ++ made ∧
      (made = [] ∨ made = [.prepare cql (.ok statement)]) := by
  cases h with
  | kept hc h => exact ⟨[], by simp, Or.inl rfl⟩
  | prepared h hw => exact ⟨[.prepare cql (.ok statement)], by simp, Or.inr rfl⟩

/-- A statement that gives a result is executed once, and prepared before that where it is not
kept. -/
theorem Runs.calls_of_ok {operation : Option Operation} {cells : List Cell} {result : ResultSet}
    (h : Runs db operation cql cells c (.ok result) c') :
    ∃ statement made, c'.calls = c.calls ++ (made ++ [.execute cql statement cells (.ok result)]) ∧
      (made = [] ∨ made = [.prepare cql (.ok statement)]) := by
  cases h with
  | @ran statement c₁ _ world prep hw =>
    obtain ⟨made, hcalls, hmade⟩ := prep.calls_of_ok
    have hannounced : (announced operation cql cells c).calls = c.calls := by simp [announced]
    refine ⟨statement, made, ?_, hmade⟩
    rw [Conversation.calls_append, hcalls, hannounced, List.append_assoc]
    rfl

/-- **A request that succeeds executes one statement,** and has it prepared at most once. -/
theorem Executes.calls_of_ok {result : ResultSet} (h : Executes db request c (.ok result) c') :
    ∃ made, c'.calls = c.calls ++ made ∧ made.countP Call.isExecute = 1 ∧
      made.countP Call.isPrepare ≤ 1 := by
  cases h with
  | @ran query cells _ c₁ c₂ _ conn find bind run =>
    obtain ⟨before, hbefore, hnone⟩ := (conn.spares.trans find.spares).calls
    obtain ⟨statement, made, hcalls, hmade⟩ := run.calls_of_ok
    have hminted : (mintedFor query.params.size c₂).calls = c₂.calls := rfl
    have hexecute : before.countP Call.isExecute = 0 := by
      rw [List.countP_eq_zero]
      intro call hcall
      simp [(Call.isPrepare_of_cql?_eq_none (hnone call hcall)).2]
    have hprepare : before.countP Call.isPrepare = 0 := by
      rw [List.countP_eq_zero]
      intro call hcall
      simp [(Call.isPrepare_of_cql?_eq_none (hnone call hcall)).1]
    refine ⟨before ++ (made ++ [.execute query.cql statement cells (.ok result)]), ?_, ?_, ?_⟩
    · rw [hcalls, hminted, hbefore, List.append_assoc]
    · rcases hmade with rfl | rfl <;> simp [List.countP_cons, hexecute, Call.isExecute]
    · rcases hmade with rfl | rfl <;> simp [List.countP_cons, hprepare, Call.isPrepare]

/-- Settling the conditions changes nothing else in a client. -/
theorem client_settled {α : Type} (r : Except Error α) (c : Conversation World Prepared) :
    ∃ chain, (settled r c).client = { c.client with chain } := by
  cases r with
  | ok result => exact ⟨.empty, rfl⟩
  | error error =>
    simp only [settled]
    split
    · exact ⟨c.client.chain, rfl⟩
    · exact ⟨.empty, rfl⟩

theorem Spares.settled {α : Type} (h : Spares c c') (r : Except Error α) :
    Spares c (Client.settled r c') := by
  obtain ⟨chain, hclient⟩ := client_settled r c'
  refine ⟨?_, ?_, ?_⟩
  · rw [calls_settled]
    exact h.calls
  · rw [hclient]
    exact h.statements_eq
  · rw [hclient]
    exact h.stats_eq

end Client

/-! ## Operations -/

namespace Request

/-- The operation that a request is by itself: reading, writing, changing or removing rows. -/
def terminal : Request → Terminal
  | select table limit columns => .get table limit columns
  | insert table payload => .insert table payload
  | update table payload => .update table payload
  | delete table limit => .delete table limit

/-- These operations end as their requests do. -/
theorem runOn_terminal_act (db : Backend World Prepared) (request : Request)
    (c : Conversation World Prepared) :
    (request.terminal.act db).runOn c =
      (((Client.execute db request).runOn c).1.map fun _ => (),
        Client.settled ((Client.execute db request).runOn c).1
          ((Client.execute db request).runOn c).2) := by
  have hrequest : request.terminal.request = request := by cases request <;> rfl
  rw [Terminal.runOn_act, Client.runOn_perform, hrequest]
  cases ((Client.execute db request).runOn c).1 with
  | error error => rfl
  | ok result => cases request <;> rfl

/-- **Reading, writing, changing and removing rows touch no statement before it is run.** Where one
of them fails otherwise than by preparing or executing its statement, no statement went to the
session, those that are kept are the same in the same order, and no count but that of the catalog's
answers has changed. Where it succeeds, its statement was executed once and prepared at most once.
-/
theorem act_spares_or_executes_once (db : Backend World Prepared) (request : Request)
    (c : Conversation World Prepared) :
    (∀ error, ((request.terminal.act db).runOn c).1 = .error error →
      (∀ text message, error ≠ .prepare text message) →
      (∀ text message, error ≠ .execution text message) →
      (∀ call ∈ (request.terminal.act db).calls c,
        call.isPrepare = false ∧ call.isExecute = false) ∧
      ((request.terminal.act db).runOn c).2.client.statements = c.client.statements ∧
      ∃ refreshes, ((request.terminal.act db).runOn c).2.client.stats =
        { c.client.stats with schemaRefreshes := refreshes }) ∧
    (((request.terminal.act db).runOn c).1 = .ok () →
      ((request.terminal.act db).calls c).countP Call.isExecute = 1 ∧
      ((request.terminal.act db).calls c).countP Call.isPrepare ≤ 1) := by
  have hexecutes := Client.executes db request c
  have hrun := request.runOn_terminal_act db c
  constructor
  · intro error herror hprepare hexecution
    have hsession : error.isSessionError = false := by
      cases error with
      | prepare text message => exact absurd rfl (hprepare text message)
      | execution text message => exact absurd rfl (hexecution text message)
      | _ => rfl
    have hr : ((Client.execute db request).runOn c).1 = .error error := by
      rw [hrun] at herror
      cases hr : ((Client.execute db request).runOn c).1 with
      | ok result => rw [hr] at herror; cases herror
      | error other => rw [hr] at herror; cases herror; rfl
    rw [hr] at hexecutes
    have hspares : Client.Spares c ((request.terminal.act db).runOn c).2 := by
      rw [hrun]
      exact (hexecutes.spares hsession).settled _
    obtain ⟨made, hcalls, hnone⟩ := hspares.calls
    refine ⟨?_, hspares.statements_eq, hspares.stats_eq⟩
    rw [Action.calls_eq hcalls]
    intro call hcall
    exact Call.isPrepare_of_cql?_eq_none (hnone call hcall)
  · intro hok
    obtain ⟨result, hr⟩ : ∃ result, ((Client.execute db request).runOn c).1 = .ok result := by
      rw [hrun] at hok
      cases hr : ((Client.execute db request).runOn c).1 with
      | ok result => exact ⟨result, rfl⟩
      | error error => rw [hr] at hok; cases hok
    rw [hr] at hexecutes
    obtain ⟨made, hcalls, hexecute, hprepare⟩ := hexecutes.calls_of_ok
    have hmade : (request.terminal.act db).calls c = made := by
      apply Action.calls_eq
      rw [hrun, Client.calls_settled, hcalls]
    rw [hmade]
    exact ⟨hexecute, hprepare⟩

/-- A row whose second value has no cell is not written, and without that value it is. -/
theorem act_spares_or_executes_once_insert :
    let c := Conversation.fresh {} { tables := [("users", [("id", .int), ("age", .bigint)])] }
    let refused := insert "users" ⟨[("id", .value (.int 7)), ("age", .value (.text "x"))]⟩
    let accepted := insert "users" ⟨[("id", .value (.int 7))]⟩
    let c' := ((refused.terminal.act Memory.backend).runOn c).2
    ((refused.terminal.act Memory.backend).runOn c).1 =
        .error (.conversion "age" "invalid bigint 'x': invalid digit found in string") ∧
      c'.client.statements = c.client.statements ∧
      ((accepted.terminal.act Memory.backend).runOn c').1 = .ok () ∧
      ((accepted.terminal.act Memory.backend).calls c').countP Call.isExecute = 1 := by
  intro c refused accepted c'
  have herror : ((refused.terminal.act Memory.backend).runOn c).1 =
      .error (.conversion "age" "invalid bigint 'x': invalid digit found in string") := by
    rfl
  have hok : ((accepted.terminal.act Memory.backend).runOn c').1 = .ok () := by
    rfl
  obtain ⟨-, hstatements, -⟩ := (act_spares_or_executes_once Memory.backend refused c).1 _ herror
    (by simp) (by simp)
  obtain ⟨hexecute, -⟩ := (act_spares_or_executes_once Memory.backend accepted c').2 hok
  exact ⟨herror, hstatements, hok, hexecute⟩

end Request

end WideColumn
