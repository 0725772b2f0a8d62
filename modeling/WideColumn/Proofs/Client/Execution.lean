import WideColumn.Proofs.Client.Phases

/-! # Whole requests

A request from opening the session to its outcome: which parts of a client it may change, which
calls it makes, and how a call that failed decides its outcome. -/

namespace WideColumn

variable {World Prepared α β : Type}

/-! ## Calls and outcomes -/

namespace Call

/-- The text of the statement that is handed to the session, to be prepared or to be executed. -/
def cql? : Call Prepared → Option String
  | connect _ | columns _ _ => none
  | prepare cql _ | execute cql _ _ _ => some cql

/-- The text and the cells of a call that executes a statement, whether or not it succeeds. -/
def execution? : Call Prepared → Option (String × List Cell)
  | connect _ | columns _ _ | prepare _ _ => none
  | execute cql _ cells _ => some (cql, cells)

/-- Whether a call has a statement prepared, or executes it with some cells. -/
def Runs (cql : String) (cells : List Cell) (call : Call Prepared) : Prop :=
  (∃ outcome, call = .prepare cql outcome) ∨
    ∃ statement outcome, call = .execute cql statement cells outcome

theorem Runs.cql?_eq {cql : String} {cells : List Cell} {call : Call Prepared}
    (h : call.Runs cql cells) : call.cql? = some cql := by
  rcases h with ⟨outcome, rfl⟩ | ⟨statement, outcome, rfl⟩ <;> rfl

/-- The error with which a request ends when a call has failed. -/
def surfaced? : Call Prepared → Option Error
  | connect (.error error) => some (.connect error.connectMessage)
  | columns _ (.error error) => some error
  | prepare cql (.error error) => some (Client.prepareError cql error)
  | execute cql _ _ (.error error) => some (Client.executionError cql error)
  | connect (.ok _) | columns _ (.ok _) | prepare _ (.ok _) | execute _ _ _ (.ok _) => none

end Call

/-- The texts and the cells that went to be executed, the earliest first. -/
def Conversation.executions (c : Conversation World Prepared) : List (String × List Cell) :=
  c.calls.filterMap Call.execution?

theorem Conversation.executions_of_calls {c c' : Conversation World Prepared}
    {made : List (Call Prepared)} (h : c'.calls = c.calls ++ made) :
    c'.executions = c.executions ++ made.filterMap Call.execution? := by
  rw [executions, executions, h, List.filterMap_append]

/-- From one conversation to a later one with an outcome: the calls in between are known, and if one
of them failed, that is the outcome. -/
structure Continues (c : Conversation World Prepared) (made : List (Call Prepared))
    (r : Except Error α) (c' : Conversation World Prepared) : Prop where
  calls_eq : c'.calls = c.calls ++ made
  surfaces : ∀ call ∈ made, ∀ error, call.surfaced? = some error → r = .error error

namespace Continues

variable {c c₁ c₂ : Conversation World Prepared} {made made₁ made₂ : List (Call Prepared)}

theorem refl (c : Conversation World Prepared) (r : Except Error α) : Continues c [] r c where
  calls_eq := (List.append_nil _).symm
  surfaces := by simp

/-- There is only one way to say which calls were made. -/
theorem made_eq {r : Except Error α} (h : Continues c made r c₁)
    (hcalls : c₁.calls = c.calls ++ made₁) : made₁ = made :=
  List.append_cancel_left (hcalls.symm.trans h.calls_eq)

/-- A step that succeeded has no failed calls to hand on. -/
theorem trans {a : α} {r : Except Error β} (h₁ : Continues c made₁ (.ok a : Except Error α) c₁)
    (h₂ : Continues c₁ made₂ r c₂) : Continues c (made₁ ++ made₂) r c₂ where
  calls_eq := by rw [h₂.calls_eq, h₁.calls_eq, List.append_assoc]
  surfaces := by
    intro call hcall error herror
    rcases List.mem_append.mp hcall with hcall | hcall
    · cases h₁.surfaces call hcall error herror
    · exact h₂.surfaces call hcall error herror

/-- What comes next after a success may be an error of its own. -/
theorem then_pure {a : α} (h : Continues c made (.ok a : Except Error α) c₁) (r : Except Error β) :
    Continues c made r c₁ where
  calls_eq := h.calls_eq
  surfaces := fun call hcall error herror => nomatch h.surfaces call hcall error herror

/-- An error is handed on as it is. -/
theorem then_error {error : Error} (h : Continues c made (.error error : Except Error α) c₁) :
    Continues c made (.error error : Except Error β) c₁ where
  calls_eq := h.calls_eq
  surfaces := fun call hcall error herror => by
    cases h.surfaces call hcall error herror
    rfl

end Continues

namespace Client

variable {db : Backend World Prepared} {c c₁ c₂ c' : Conversation World Prepared}
  {table cql : String} {request : Request}

/-! ## The calls of a phase -/

theorem Connects.continues {r : Except Error Unit} (h : Connects db c r c') :
    ∃ made, Continues c made r c' ∧ ∀ call ∈ made, call.cql? = none := by
  cases h with
  | ready h => exact ⟨[], Continues.refl c _, by simp⟩
  | disabled h => exact ⟨[], Continues.refl c _, by simp⟩
  | opened h hw =>
    exact ⟨[.connect (.ok ())], ⟨by simp, by simp [Call.surfaced?]⟩, by simp [Call.cql?]⟩
  | @refused error _ h hw =>
    exact ⟨[.connect (.error error)], ⟨by simp, by simp [Call.surfaced?]⟩, by simp [Call.cql?]⟩

theorem Loads.continues {r : Except Error Unit} (h : Loads db table c r c') :
    ∃ made, Continues c made r c' ∧ ∀ call ∈ made, call.cql? = none := by
  cases h with
  | kept h => exact ⟨[], Continues.refl c _, by simp⟩
  | @failed error _ h hw =>
    exact ⟨[.columns table (.error error)], ⟨by simp, by simp [Call.surfaced?]⟩,
      by simp [Call.cql?]⟩
  | missing h hw =>
    exact ⟨[.columns table (.ok [])], ⟨by simp, by simp [Call.surfaced?]⟩, by simp [Call.cql?]⟩
  | @loaded columns _ h hw hne =>
    exact ⟨[.columns table (.ok columns)], ⟨by simp, by simp [Call.surfaced?]⟩, by simp [Call.cql?]⟩

theorem Finds.continues {r : Except Error Query} (h : Finds db request c r c') :
    ∃ made, Continues c made r c' ∧ ∀ call ∈ made, call.cql? = none := by
  cases h with
  | unloaded load hp =>
    obtain ⟨made, hmade, hcql⟩ := load.continues
    exact ⟨made, hmade.then_error, hcql⟩
  | uncompiled load h =>
    rcases load with rfl | load
    · exact ⟨[], Continues.refl _ _, by simp⟩
    · obtain ⟨made, hmade, hcql⟩ := load.continues
      exact ⟨made, hmade.then_pure _, hcql⟩
  | unbound hs h hp => exact ⟨[], Continues.refl _ _, by simp⟩
  | loaded load h hp =>
    obtain ⟨made, hmade, hcql⟩ := load.continues
    exact ⟨made, hmade.then_pure _, hcql⟩

theorem Prepares.continues {r : Except Error Prepared} (h : Prepares db cql c r c') :
    ∃ made, Continues c made r c' ∧ (∀ call ∈ made, ∃ outcome, call = .prepare cql outcome) ∧
      ∀ error, r = .error error → ∃ call ∈ made, call.surfaced? = some error := by
  cases h with
  | kept hc h => exact ⟨[], ⟨by simp, by simp⟩, by simp, by simp⟩
  | @refused error _ h hw =>
    refine ⟨[.prepare cql (.error error)], ⟨by simp, by simp [Call.surfaced?]⟩, by simp, ?_⟩
    rintro _ ⟨⟩
    exact ⟨_, List.mem_singleton_self _, rfl⟩
  | @prepared statement _ h hw =>
    exact ⟨[.prepare cql (.ok statement)], ⟨by simp, by simp [Call.surfaced?]⟩, by simp, by simp⟩

/-- Preparing a statement executes nothing. -/
theorem Prepares.executions_eq {r : Except Error Prepared} (h : Prepares db cql c r c') :
    c'.executions = c.executions := by
  obtain ⟨made, hmade, hprepare, -⟩ := h.continues
  have hnone : made.filterMap Call.execution? = [] := by
    rw [List.filterMap_eq_nil_iff]
    intro call hcall
    obtain ⟨outcome, rfl⟩ := hprepare call hcall
    rfl
  rw [Conversation.executions_of_calls hmade.calls_eq, hnone, List.append_nil]

theorem executions_announced (operation : Option Operation) (cql : String) (cells : List Cell)
    (c : Conversation World Prepared) :
    (announced operation cql cells c).executions = c.executions := by
  have hcalls : (announced operation cql cells c).calls = c.calls ++ [] := by simp [announced]
  rw [Conversation.executions_of_calls hcalls, List.filterMap_nil, List.append_nil]

/-- Running a statement comes to one execution, or to an error of the session. -/
theorem Runs.continues {operation : Option Operation} {cells : List Cell}
    {r : Except Error ResultSet} (h : Runs db operation cql cells c r c') :
    ∃ made, Continues c made r c' ∧ (∀ call ∈ made, call.Runs cql cells) ∧
      (∀ result, r = .ok result → made.filterMap Call.executed? = [(cql, cells)]) ∧
      ∀ error, r = .error error → ∃ call ∈ made, call.surfaced? = some error := by
  have hannounced : Continues c [] (.ok () : Except Error Unit) (announced operation cql cells c) :=
    ⟨by simp [announced], by simp⟩
  cases h with
  | unprepared prep =>
    obtain ⟨made, hmade, hcalls, hfailed⟩ := prep.continues
    refine ⟨made, (hannounced.trans hmade).then_error, fun call hcall => ?_, by simp, ?_⟩
    · exact Or.inl (hcalls call hcall)
    · rintro _ ⟨⟩
      exact hfailed _ rfl
  | @failed statement _ error _ prep hw =>
    obtain ⟨made, hmade, hcalls, -⟩ := prep.continues
    refine ⟨made ++ [.execute cql statement cells (.error error)],
      (hannounced.trans hmade).trans ⟨by simp, by simp [Call.surfaced?]⟩, ?_, by simp, ?_⟩
    · intro call hcall
      rcases List.mem_append.mp hcall with hcall | hcall
      · exact Or.inl (hcalls call hcall)
      · exact Or.inr ⟨statement, _, List.mem_singleton.mp hcall⟩
    · rintro _ ⟨⟩
      exact ⟨_, List.mem_append_right _ (List.mem_singleton_self _), rfl⟩
  | @ran statement _ result _ prep hw =>
    obtain ⟨made, hmade, hcalls, -⟩ := prep.continues
    refine ⟨made ++ [.execute cql statement cells (.ok result)],
      (hannounced.trans hmade).trans ⟨by simp, by simp [Call.surfaced?]⟩, ?_, ?_, by simp⟩
    · intro call hcall
      rcases List.mem_append.mp hcall with hcall | hcall
      · exact Or.inl (hcalls call hcall)
      · exact Or.inr ⟨statement, _, List.mem_singleton.mp hcall⟩
    · intro _ _
      -- Preparing a statement executes nothing.
      have hnone : made.filterMap Call.executed? = [] := by
        rw [List.filterMap_eq_nil_iff]
        intro call hcall
        obtain ⟨outcome, rfl⟩ := hcalls call hcall
        rfl
      rw [List.filterMap_append, hnone]
      rfl

/-! ## What a phase changes in a client -/

theorem Connects.client_eq {r : Except Error Unit} (h : Connects db c r c') :
    ∃ connection, c'.client = { c.client with connection } := by
  cases h <;> exact ⟨_, rfl⟩

theorem Loads.client_eq {r : Except Error Unit} (h : Loads db table c r c') :
    ∃ schemas stats, c'.client = { c.client with schemas, stats } := by
  cases h <;> exact ⟨_, _, rfl⟩

theorem Finds.client_eq {r : Except Error Query} (h : Finds db request c r c') :
    ∃ schemas stats, c'.client = { c.client with schemas, stats } := by
  cases h with
  | unloaded load hp => exact load.client_eq
  | uncompiled load h =>
    rcases load with rfl | load
    · exact ⟨_, _, rfl⟩
    · exact load.client_eq
  | unbound hs h hp => exact ⟨_, _, rfl⟩
  | loaded load h hp => exact load.client_eq

theorem Prepares.client_eq {r : Except Error Prepared} (h : Prepares db cql c r c') :
    ∃ statements stats, c'.client = { c.client with statements, stats } := by
  cases h with
  | kept hc h => exact ⟨_, _, rfl⟩
  | refused h hw => exact ⟨_, _, rfl⟩
  | prepared h hw =>
    rw [keepStatement]
    split <;> exact ⟨_, _, rfl⟩

theorem Runs.client_eq {operation : Option Operation} {cells : List Cell}
    {r : Except Error ResultSet} (h : Runs db operation cql cells c r c') :
    ∃ statements stats, c'.client = { c.client with statements, stats } := by
  cases h with
  | unprepared prep =>
    obtain ⟨statements, stats, h⟩ := prep.client_eq
    exact ⟨statements, stats, h⟩
  | failed prep hw =>
    obtain ⟨statements, stats, h⟩ := prep.client_eq
    exact ⟨statements, _, by rw [h]; rfl⟩
  | ran prep hw =>
    obtain ⟨statements, stats, h⟩ := prep.client_eq
    exact ⟨statements, stats, h⟩

/-! ## A whole request -/

/-- A client whose supply of identifiers has been used for so many values. -/
def mintedFor (count : Nat) (c : Conversation World Prepared) : Conversation World Prepared :=
  { c with client := { c.client with minted := c.client.minted + count } }

/-- Using identifiers makes no calls. -/
theorem continues_mintedFor {made : List (Call Prepared)} {r : Except Error α}
    (h : Continues c made r c₁) (count : Nat) : Continues c made r (mintedFor count c₁) :=
  ⟨h.calls_eq, h.surfaces⟩

/-- What carrying out a request comes to. -/
inductive Executes (db : Backend World Prepared) (request : Request)
    (c : Conversation World Prepared) :
    Except Error ResultSet → Conversation World Prepared → Prop
  /-- There is no session. -/
  | unconnected {error : Error} {c' : Conversation World Prepared}
    (conn : Connects db c (.error error) c') : Executes db request c (.error error) c'
  /-- There is no statement, or no schema for it. -/
  | unfound {error : Error} {c₁ c' : Conversation World Prepared}
    (conn : Connects db c (.ok ()) c₁) (find : Finds db request c₁ (.error error) c') :
    Executes db request c (.error error) c'
  /-- A value has no cell. -/
  | unbound {query : Query} {error : Error} {c₁ c₂ : Conversation World Prepared}
    (conn : Connects db c (.ok ()) c₁) (find : Finds db request c₁ (.ok query) c₂)
    (bind : c₂.client.cells? request.table query.params = .error error) :
    Executes db request c (.error error) c₂
  /-- The statement goes to the session. -/
  | ran {query : Query} {cells : List Cell} {r : Except Error ResultSet}
    {c₁ c₂ c' : Conversation World Prepared}
    (conn : Connects db c (.ok ()) c₁) (find : Finds db request c₁ (.ok query) c₂)
    (bind : c₂.client.cells? request.table query.params = .ok cells)
    (run : Runs db (some request.operation) query.cql cells (mintedFor query.params.size c₂) r c') :
    Executes db request c r c'

theorem execute_eq (db : Backend World Prepared) (request : Request) :
    execute db request = (do
      connect db
      let query ← findStatement db request
      let cells ← bindCells request.table query.params
      runStatement db (some request.operation) query.cql cells) := by
  rw [execute, findStatement]
  -- A read looks at its values between compiling and loading, which no other request does.
  split
  · simp only [bind_assoc]
    refine bind_congr fun _ => bind_congr fun client => bind_congr fun query => ?_
    cases query.params.isEmpty <;> simp
  · simp only [bind_assoc]

/-- The part of a request before its values are turned into cells. -/
def findsQuery (db : Backend World Prepared) (request : Request) :
    Action World Prepared Query := do
  connect db
  findStatement db request

theorem execute_eq_findsQuery (db : Backend World Prepared) (request : Request) :
    execute db request = (do
      let query ← findsQuery db request
      let cells ← bindCells request.table query.params
      runStatement db (some request.operation) query.cql cells) := by
  rw [execute_eq, findsQuery, bind_assoc]

theorem executes (db : Backend World Prepared) (request : Request)
    (c : Conversation World Prepared) :
    Executes db request c ((execute db request).runOn c).1 ((execute db request).runOn c).2 := by
  have hconn := connects db c
  rw [execute_eq, Action.runOn_bind]
  -- One phase after the other; the first one that fails ends the request.
  rcases hrun₁ : (connect db).runOn c with ⟨error | ⟨⟩, c₁⟩
  · rw [hrun₁] at hconn
    exact Executes.unconnected hconn
  rw [hrun₁] at hconn
  have hfind := finds db request c₁
  simp only [Action.runOn_bind]
  rcases hrun₂ : (findStatement db request).runOn c₁ with ⟨error | query, c₂⟩
  · rw [hrun₂] at hfind
    exact Executes.unfound hconn hfind
  rw [hrun₂] at hfind
  simp only [runOn_bindCells]
  cases hbind : c₂.client.cells? request.table query.params with
  | error error => exact Executes.unbound hconn hfind hbind
  | ok cells => exact Executes.ran hconn hfind hbind (runs db _ query.cql cells _)

/-- A request touches neither the settings nor the conditions of a client. -/
theorem Executes.client_eq {r : Except Error ResultSet} (h : Executes db request c r c') :
    ∃ connection schemas minted statements stats,
      c'.client = { c.client with connection, schemas, minted, statements, stats } := by
  cases h with
  | unconnected conn =>
    obtain ⟨connection, h⟩ := conn.client_eq
    exact ⟨connection, _, _, _, _, h⟩
  | unfound conn find =>
    obtain ⟨connection, h₁⟩ := conn.client_eq
    obtain ⟨schemas, stats, h⟩ := find.client_eq
    exact ⟨connection, schemas, _, _, stats, by rw [h, h₁]⟩
  | unbound conn find bind =>
    obtain ⟨connection, h₁⟩ := conn.client_eq
    obtain ⟨schemas, stats, h⟩ := find.client_eq
    exact ⟨connection, schemas, _, _, stats, by rw [h, h₁]⟩
  | ran conn find bind run =>
    obtain ⟨connection, h₁⟩ := conn.client_eq
    obtain ⟨schemas, stats, h₂⟩ := find.client_eq
    obtain ⟨statements, stats, h⟩ := run.client_eq
    exact ⟨connection, schemas, _, statements, stats, by rw [h, mintedFor, h₂, h₁]⟩

theorem Executes.chain_eq {r : Except Error ResultSet} (h : Executes db request c r c') :
    c'.client.chain = c.client.chain := by
  obtain ⟨connection, schemas, minted, statements, stats, h⟩ := h.client_eq
  rw [h]

theorem Finds.compile_eq {query : Query} (h : Finds db request c (.ok query) c') :
    c.client.compile request = .ok query := by
  cases h with
  | unbound hs h hp => exact h
  | loaded load h hp => exact h

/-- Opening the session does not change what a request compiles to. -/
theorem Connects.compile_eq {r : Except Error Unit} {query : Query} (conn : Connects db c r c₁)
    (find : Finds db request c₁ (.ok query) c') : c.client.compile request = .ok query := by
  obtain ⟨connection, hclient⟩ := conn.client_eq
  have hchain : c₁.client.chain = c.client.chain := by rw [hclient]
  rw [← compile_congr hchain request]
  exact find.compile_eq

/-- Up to the statement, a request calls only for the session and the catalog. -/
theorem Connects.continues_finds {r : Except Error Query} (conn : Connects db c (.ok ()) c₁)
    (find : Finds db request c₁ r c') :
    ∃ made, Continues c made r c' ∧ ∀ call ∈ made, call.cql? = none := by
  obtain ⟨made₁, hmade₁, hcql₁⟩ := conn.continues
  obtain ⟨made₂, hmade₂, hcql₂⟩ := find.continues
  exact ⟨made₁ ++ made₂, hmade₁.trans hmade₂, List.forall_mem_append.mpr ⟨hcql₁, hcql₂⟩⟩

/-- A request ends without a word about statements, or it gets as far as running its own. -/
theorem Executes.silent_or_ran {r : Except Error ResultSet} (h : Executes db request c r c') :
    (∃ made, Continues c made r c' ∧ ∀ call ∈ made, call.cql? = none) ∨
      ∃ query cells c₁ c₂ made, Connects db c (.ok ()) c₁ ∧ Finds db request c₁ (.ok query) c₂ ∧
        c₂.client.cells? request.table query.params = .ok cells ∧
        Runs db (some request.operation) query.cql cells (mintedFor query.params.size c₂) r c' ∧
        Continues c made r c' ∧ ∀ call ∈ made, call.cql? = none ∨ call.Runs query.cql cells := by
  cases h with
  | unconnected conn =>
    obtain ⟨made, hmade, hnone⟩ := conn.continues
    exact Or.inl ⟨made, hmade.then_error, hnone⟩
  | unfound conn find =>
    obtain ⟨made, hmade, hnone⟩ := conn.continues_finds find
    exact Or.inl ⟨made, hmade.then_error, hnone⟩
  | unbound conn find bind =>
    obtain ⟨made, hmade, hnone⟩ := conn.continues_finds find
    exact Or.inl ⟨made, hmade.then_pure _, hnone⟩
  | @ran query cells _ c₁ c₂ _ conn find bind run =>
    obtain ⟨made₁, hmade₁, hnone₁⟩ := conn.continues_finds find
    obtain ⟨made₂, hmade₂, hruns₂, -⟩ := run.continues
    have hboth := (continues_mintedFor hmade₁ query.params.size).trans hmade₂
    refine Or.inr ⟨query, cells, c₁, c₂, made₁ ++ made₂, conn, find, bind, run, hboth, ?_⟩
    intro call hcall
    rcases List.mem_append.mp hcall with hcall | hcall
    · exact Or.inl (hnone₁ call hcall)
    · exact Or.inr (hruns₂ call hcall)

/-- **A request hands one statement to the session,** the one it compiles to, and a call that failed
decides its outcome. -/
theorem Executes.continues {r : Except Error ResultSet} (h : Executes db request c r c') :
    ∃ made, Continues c made r c' ∧ ∀ call ∈ made, ∀ cql, call.cql? = some cql →
      ∃ query, c.client.compile request = .ok query ∧ query.cql = cql := by
  rcases h.silent_or_ran with ⟨made, hmade, hnone⟩ |
    ⟨query, cells, c₁, c₂, made, conn, find, -, -, hmade, hcalls⟩
  · refine ⟨made, hmade, fun call hcall cql hcql => ?_⟩
    cases (hnone call hcall).symm.trans hcql
  · refine ⟨made, hmade, fun call hcall cql hcql => ?_⟩
    rcases hcalls call hcall with hnone | hruns
    · cases hnone.symm.trans hcql
    · rw [hruns.cql?_eq] at hcql
      exact ⟨query, conn.compile_eq find, Option.some.inj hcql⟩

/-! ## Statements written by hand -/

/-- What running a statement written by hand comes to. -/
inductive Queries (db : Backend World Prepared) (cql : String) (c : Conversation World Prepared) :
    Except Error ResultSet → Conversation World Prepared → Prop
  /-- There is no session. -/
  | unconnected {error : Error} {c' : Conversation World Prepared}
    (conn : Connects db c (.error error) c') : Queries db cql c (.error error) c'
  /-- The statement goes to the session. -/
  | ran {r : Except Error ResultSet} {c₁ c' : Conversation World Prepared}
    (conn : Connects db c (.ok ()) c₁) (run : Runs db none cql [] c₁ r c') :
    Queries db cql c r c'

theorem queries (db : Backend World Prepared) (cql : String) (c : Conversation World Prepared) :
    ∃ r, Queries db cql c r ((rawQuery db cql).runOn c).2 ∧
      ((rawQuery db cql).runOn c).1 = r.map fun result =>
        if result.isVoid then .applied
        else .rows (result.extract ((rawQuery db cql).runOn c).2.client.config.autoConvert) := by
  have hconn := connects db c
  rcases hrun₁ : (connect db).runOn c with ⟨error | ⟨⟩, c₁⟩
  · rw [hrun₁] at hconn
    have hend : (rawQuery db cql).runOn c = (.error error, c₁) := by
      simp [rawQuery, Action.runOn_bind, hrun₁]
    rw [hend]
    exact ⟨.error error, Queries.unconnected hconn, rfl⟩
  · rw [hrun₁] at hconn
    have hruns := runs db none cql [] c₁
    rcases hrun₂ : (runStatement db none cql []).runOn c₁ with ⟨error | result, c'⟩
    · rw [hrun₂] at hruns
      have hend : (rawQuery db cql).runOn c = (.error error, c') := by
        simp [rawQuery, Action.runOn_bind, hrun₁, hrun₂]
      rw [hend]
      exact ⟨.error error, Queries.ran hconn hruns, rfl⟩
    · rw [hrun₂] at hruns
      have hend : (rawQuery db cql).runOn c =
          (.ok (if result.isVoid then .applied
            else .rows (result.extract c'.client.config.autoConvert)), c') := by
        cases hvoid : result.isVoid <;>
          simp [rawQuery, rowsOf, Action.runOn_bind, hrun₁, hrun₂, hvoid]
      rw [hend]
      exact ⟨.ok result, Queries.ran hconn hruns, rfl⟩

theorem Queries.client_eq {r : Except Error ResultSet} (h : Queries db cql c r c') :
    ∃ connection statements stats, c'.client = { c.client with connection, statements, stats } := by
  cases h with
  | unconnected conn =>
    obtain ⟨connection, h⟩ := conn.client_eq
    exact ⟨connection, _, _, h⟩
  | ran conn run =>
    obtain ⟨connection, h₁⟩ := conn.client_eq
    obtain ⟨statements, stats, h⟩ := run.client_eq
    exact ⟨connection, statements, stats, by rw [h, h₁]⟩

/-- A statement written by hand leaves the conditions alone. -/
theorem Queries.chain_eq {r : Except Error ResultSet} (h : Queries db cql c r c') :
    c'.client.chain = c.client.chain := by
  obtain ⟨connection, statements, stats, h⟩ := h.client_eq
  rw [h]

/-! ## Settling -/

/-- A conversation after the conditions have been settled by an outcome. -/
def settled (r : Except Error α) (c : Conversation World Prepared) : Conversation World Prepared :=
  match r with
  | .ok _ => { c with client := c.client.reset }
  | .error error =>
    if error.isFatal || error.isSessionError then
      { c with events := c.events ++ [.notice (.chainKept error)] }
    else { c with client := c.client.reset }

theorem runOn_settle (action : Action World Prepared α) (c : Conversation World Prepared) :
    (settle action).runOn c =
      ((action.runOn c).1, settled (action.runOn c).1 (action.runOn c).2) := by
  rcases hrun : action.runOn c with ⟨error | result, c'⟩
  · cases h : error.isFatal || error.isSessionError <;>
      simp [settle, settled, Action.runOn_bind, hrun, h, -Bool.or_eq_true]
  · simp [settle, settled, Action.runOn_bind, hrun]

theorem runOn_perform (db : Backend World Prepared) (request : Request)
    (c : Conversation World Prepared) :
    (perform db request).runOn c =
      (((execute db request).runOn c).1,
        settled ((execute db request).runOn c).1 ((execute db request).runOn c).2) :=
  runOn_settle (execute db request) c

/-- After an error of the session or the connection, a client is what it was. -/
theorem client_settled_error {error : Error} (h : (error.isFatal || error.isSessionError) = true)
    (c : Conversation World Prepared) :
    (settled (.error error : Except Error α) c).client = c.client := by
  simp only [settled]
  rw [if_pos h]

/-- The conditions that an outcome leaves. -/
theorem chain_settled (r : Except Error α) (c : Conversation World Prepared) :
    (settled r c).client.chain =
      match r with
      | .ok _ => .empty
      | .error error =>
        if error.isFatal || error.isSessionError then c.client.chain else .empty := by
  cases r with
  | ok result => rfl
  | error error =>
    simp only [settled]
    split <;> rfl

@[simp] theorem calls_settled (r : Except Error α) (c : Conversation World Prepared) :
    (settled r c).calls = c.calls := by
  cases r with
  | ok result => rfl
  | error error =>
    simp only [settled]
    split
    · simp
    · rfl

end Client

end WideColumn
