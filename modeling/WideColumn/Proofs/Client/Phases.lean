import WideColumn.Client.Operations

/-! # The phases of a request

What each phase of a request can come to, said once: an inductive relation for a phase has one case
for every way through it, with the outcome and the conversation that is left, and a theorem says
that the phase always goes one of these ways. What requests keep, call and return is derived from
the cases. -/

namespace WideColumn

variable {World Prepared α : Type}

/-! ## Calls -/

namespace Conversation

@[simp] theorem calls_append (c : Conversation World Prepared) (client : Client Prepared)
    (world : World) (said : List (Event Prepared)) :
    calls ⟨client, world, c.events ++ said⟩ = c.calls ++ said.filterMap Event.call? :=
  List.filterMap_append

@[simp] theorem calls_mk (c : Conversation World Prepared) (client : Client Prepared)
    (world : World) : calls ⟨client, world, c.events⟩ = c.calls := rfl

end Conversation

@[simp] theorem Event.call?_call (call : Call Prepared) : call? (.call call) = some call := rfl

@[simp] theorem Event.call?_notice (notice : Notice) :
    call? (.notice notice : Event Prepared) = none := rfl

/-- The calls that an action makes in a conversation, the earliest first. -/
def Action.calls (action : Action World Prepared α) (c : Conversation World Prepared) :
    List (Call Prepared) :=
  (action.runOn c).2.calls.drop c.calls.length

theorem Action.calls_eq {action : Action World Prepared α} {c : Conversation World Prepared}
    {made : List (Call Prepared)} (h : (action.runOn c).2.calls = c.calls ++ made) :
    action.calls c = made := by
  rw [calls, h, List.drop_left]

@[simp] theorem Action.runOn_map {β : Type} (f : α → β) (x : Action World Prepared α)
    (c : Conversation World Prepared) :
    (f <$> x).runOn c =
      match x.runOn c with
      | (.ok a, c) => (.ok (f a), c)
      | (.error error, c) => (.error error, c) := by
  rw [← bind_pure_comp, runOn_bind]
  rfl

/-- An action whose result is left out does what it does otherwise. -/
theorem Action.runOn_discard (x : Action World Prepared α) (c : Conversation World Prepared) :
    (discard x).runOn c = ((x.runOn c).1.map fun _ => (), (x.runOn c).2) := by
  have h : discard x = (fun _ => ()) <$> x := rfl
  rw [h, runOn_map]
  rcases x.runOn c with ⟨error | a, c'⟩ <;> rfl

theorem Action.calls_discard (x : Action World Prepared α) (c : Conversation World Prepared) :
    (discard x).calls c = x.calls c := by
  rw [calls, calls, runOn_discard]

/-- The message under which a client remembers that its session could not be opened. -/
def Error.connectMessage : Error → String
  | connect message => message
  | error => error.message

namespace Client

open WideColumn.Action

variable {db : Backend World Prepared} {c c' : Conversation World Prepared}

/-! ## Opening the session -/

/-- What opening the session comes to. -/
inductive Connects (db : Backend World Prepared) (c : Conversation World Prepared) :
    Except Error Unit → Conversation World Prepared → Prop
  /-- The session is open already. -/
  | ready (h : c.client.connection = .ready) : Connects db c (.ok ()) c
  /-- The session could not be opened before. -/
  | disabled {message : String} (h : c.client.connection = .failed message) :
    Connects db c (.error (.connect message)) c
  /-- The session opens. -/
  | opened {world : World} (h : c.client.connection = .idle)
    (hw : db.connect c.world = (.ok (), world)) :
    Connects db c (.ok ())
      { client := { c.client with connection := .ready }, world
        events := c.events ++ [.call (.connect (.ok ())), .notice .sessionEstablished] }
  /-- The session does not open. -/
  | refused {error : Error} {world : World} (h : c.client.connection = .idle)
    (hw : db.connect c.world = (.error error, world)) :
    Connects db c (.error (.connect error.connectMessage))
      { client := { c.client with connection := .failed error.connectMessage }, world
        events := c.events ++
          [.call (.connect (.error error)), .notice (.connectFailed error.connectMessage)] }

theorem connects (db : Backend World Prepared) (c : Conversation World Prepared) :
    Connects db c ((connect db).runOn c).1 ((connect db).runOn c).2 := by
  cases h : c.client.connection with
  | ready =>
    have hrun : (connect db).runOn c = (.ok (), c) := by
      simp [connect, runOn_bind, h]
    rw [hrun]
    exact Connects.ready h
  | failed message =>
    have hrun : (connect db).runOn c = (.error (.connect message), c) := by
      simp [connect, runOn_bind, h]
    rw [hrun]
    exact Connects.disabled h
  | idle =>
    rcases hw : db.connect c.world with ⟨error | ⟨⟩, world⟩
    · have hrun : (connect db).runOn c = (.error (.connect error.connectMessage),
          { client := { c.client with connection := .failed error.connectMessage }, world
            events := c.events ++
              [.call (.connect (.error error)),
                .notice (.connectFailed error.connectMessage)] }) := by
        cases error <;> simp [connect, runOn_bind, h, hw, Error.connectMessage]
      rw [hrun]
      exact Connects.refused h hw
    · have hrun : (connect db).runOn c = (.ok (),
          { client := { c.client with connection := .ready }, world
            events := c.events ++ [.call (.connect (.ok ())), .notice .sessionEstablished] }) := by
        simp [connect, runOn_bind, h, hw]
      rw [hrun]
      exact Connects.opened h hw

/-! ## Loading the schema -/

/-- What loading the schema of a table comes to. -/
inductive Loads (db : Backend World Prepared) (table : String) (c : Conversation World Prepared) :
    Except Error Unit → Conversation World Prepared → Prop
  /-- The schema is kept already. -/
  | kept (h : c.client.schemas.needsRefresh table = false) : Loads db table c (.ok ()) c
  /-- The catalog does not answer. -/
  | failed {error : Error} {world : World} (h : c.client.schemas.needsRefresh table = true)
    (hw : db.columns table c.world = (.error error, world)) :
    Loads db table c (.error error)
      { client := c.client, world
        events := c.events ++ [.call (.columns table (.error error))] }
  /-- The catalog has no columns for the table. -/
  | missing {world : World} (h : c.client.schemas.needsRefresh table = true)
    (hw : db.columns table c.world = (.ok [], world)) :
    Loads db table c (.error (.schemaUnavailable table))
      { client := { c.client with stats := c.client.stats.countRefresh }, world
        events := c.events ++ [.call (.columns table (.ok []))] }
  /-- The columns become the schema that is kept. -/
  | loaded {columns : List Column} {world : World}
    (h : c.client.schemas.needsRefresh table = true)
    (hw : db.columns table c.world = (.ok columns, world)) (hne : columns.isEmpty = false) :
    Loads db table c (.ok ())
      { client :=
          { c.client with
            schemas := c.client.schemas.replace (.ofColumns table columns)
            stats := c.client.stats.countRefresh }
        world
        events := c.events ++
          [.call (.columns table (.ok columns)), .notice (.schemaRefreshed table columns.length)] }

theorem loads (db : Backend World Prepared) (table : String) (c : Conversation World Prepared) :
    Loads db table c ((loadSchema db table).runOn c).1 ((loadSchema db table).runOn c).2 := by
  cases h : c.client.schemas.needsRefresh table with
  | false =>
    have hrun : (loadSchema db table).runOn c = (.ok (), c) := by
      simp [loadSchema, runOn_bind, h]
    rw [hrun]
    exact Loads.kept h
  | true =>
    rcases hw : db.columns table c.world with ⟨error | columns, world⟩
    · have hrun : (loadSchema db table).runOn c = (.error error,
          { client := c.client, world
            events := c.events ++ [.call (.columns table (.error error))] }) := by
        simp [loadSchema, runOn_bind, h, hw]
      rw [hrun]
      exact Loads.failed h hw
    · cases columns with
      | nil =>
        have hrun : (loadSchema db table).runOn c = (.error (.schemaUnavailable table),
            { client := { c.client with stats := c.client.stats.countRefresh }, world
              events := c.events ++ [.call (.columns table (.ok []))] }) := by
          simp [loadSchema, runOn_bind, h, hw, count]
        rw [hrun]
        exact Loads.missing h hw
      | cons column columns =>
        have hrun : (loadSchema db table).runOn c = (.ok (),
            { client :=
                { c.client with
                  schemas := c.client.schemas.replace (.ofColumns table (column :: columns))
                  stats := c.client.stats.countRefresh }
              world
              events := c.events ++ [.call (.columns table (.ok (column :: columns))),
                .notice (.schemaRefreshed table (column :: columns).length)] }) := by
          simp [loadSchema, runOn_bind, h, hw, count]
        rw [hrun]
        exact Loads.loaded h hw rfl

/-! ## Compiling -/

/-- The part of a request that finds its statement and the schema for it. -/
def findStatement (db : Backend World Prepared) (request : Request) :
    Action World Prepared Query :=
  if request.operation = .select then do
    let query ← liftExcept ((← client).compile request)
    unless query.params.isEmpty do loadSchema db request.table
    pure query
  else do
    loadSchema db request.table
    liftExcept ((← client).compile request)

/-- What finding the statement of a request and its schema comes to. A read without values goes
without a schema. -/
inductive Finds (db : Backend World Prepared) (request : Request)
    (c : Conversation World Prepared) :
    Except Error Query → Conversation World Prepared → Prop
  /-- There is no schema. -/
  | unloaded {error : Error} {c' : Conversation World Prepared}
    (load : Loads db request.table c (.error error) c')
    (hp : request.operation = .select →
      ∃ query, c.client.compile request = .ok query ∧ query.params.isEmpty = false) :
    Finds db request c (.error error) c'
  /-- There is no statement. -/
  | uncompiled {error : Error} {c' : Conversation World Prepared}
    (load : c' = c ∨ Loads db request.table c (.ok ()) c')
    (h : c.client.compile request = .error error) : Finds db request c (.error error) c'
  /-- The statement has no values to be converted. -/
  | unbound {query : Query} (hs : request.operation = .select)
    (h : c.client.compile request = .ok query) (hp : query.params.isEmpty = true) :
    Finds db request c (.ok query) c
  /-- There is a statement, and the schema is kept. -/
  | loaded {query : Query} {c' : Conversation World Prepared}
    (load : Loads db request.table c (.ok ()) c') (h : c.client.compile request = .ok query)
    (hp : request.operation = .select → query.params.isEmpty = false) :
    Finds db request c (.ok query) c'

/-- A statement depends on the conditions alone. -/
theorem compile_congr {c c' : Client Prepared} (h : c'.chain = c.chain) (request : Request) :
    c'.compile request = c.compile request := by
  rw [compile, compile, h]

theorem Loads.chain_eq {table : String} {r : Except Error Unit} (h : Loads db table c r c') :
    c'.client.chain = c.client.chain := by
  cases h <;> rfl

theorem finds (db : Backend World Prepared) (request : Request)
    (c : Conversation World Prepared) :
    Finds db request c ((findStatement db request).runOn c).1
      ((findStatement db request).runOn c).2 := by
  have hload := loads db request.table c
  by_cases hs : request.operation = .select
  -- A read is compiled first and needs the schema for its values only.
  · cases hc : c.client.compile request with
    | error error =>
      have hrun : (findStatement db request).runOn c = (.error error, c) := by
        simp [findStatement, runOn_bind, hs, hc]
      rw [hrun]
      exact Finds.uncompiled (Or.inl rfl) hc
    | ok query =>
      cases hp : query.params.isEmpty with
      | true =>
        have hrun : (findStatement db request).runOn c = (.ok query, c) := by
          simp [findStatement, runOn_bind, hs, hc, hp]
        rw [hrun]
        exact Finds.unbound hs hc hp
      | false =>
        rcases hrun : (loadSchema db request.table).runOn c with ⟨error | ⟨⟩, c'⟩
        · rw [hrun] at hload
          have hfind : (findStatement db request).runOn c = (.error error, c') := by
            simp [findStatement, runOn_bind, hs, hc, hp, hrun]
          rw [hfind]
          exact Finds.unloaded hload fun _ => ⟨query, hc, hp⟩
        · rw [hrun] at hload
          have hfind : (findStatement db request).runOn c = (.ok query, c') := by
            simp [findStatement, runOn_bind, hs, hc, hp, hrun]
          rw [hfind]
          exact Finds.loaded hload hc fun _ => hp
  -- The others need it whatever they bind, and before they are compiled.
  · rcases hrun : (loadSchema db request.table).runOn c with ⟨error | ⟨⟩, c'⟩
    · rw [hrun] at hload
      have hfind : (findStatement db request).runOn c = (.error error, c') := by
        simp [findStatement, runOn_bind, hs, hrun]
      rw [hfind]
      exact Finds.unloaded hload fun h => absurd h hs
    · rw [hrun] at hload
      have hfind : (findStatement db request).runOn c = (c.client.compile request, c') := by
        simp [findStatement, runOn_bind, hs, hrun, compile_congr hload.chain_eq request]
      rw [hfind]
      cases hc : c.client.compile request with
      | error error => exact Finds.uncompiled (Or.inr hload) hc
      | ok query => exact Finds.loaded hload hc fun h => absurd h hs

/-! ## Binding -/

/-- The cells that a client would hand over for the values of a statement on a table. -/
def cells? (c : Client Prepared) (table : String) (params : BindParams) :
    Except Error (List Cell) :=
  params.toCells (c.schemas.get? table) c.config.uuidWrites fun i => c.uuids (c.minted + i)

theorem runOn_bindCells (table : String) (params : BindParams)
    (c : Conversation World Prepared) :
    (bindCells table params : Action World Prepared (List Cell)).runOn c =
      match c.client.cells? table params with
      | .error error => (.error error, c)
      | .ok cells =>
        (.ok cells,
          { c with client := { c.client with minted := c.client.minted + params.size } }) := by
  cases h : c.client.cells? table params with
  | error error =>
    rw [cells?] at h
    simp [bindCells, runOn_bind, h]
  | ok cells =>
    rw [cells?] at h
    simp [bindCells, runOn_bind, h]

/-! ## Preparing and running a statement -/

/-- A client that keeps a prepared statement it got from the session, if it keeps any. -/
def keepStatement (c : Client Prepared) (cql : String) (statement : Prepared) : Client Prepared :=
  match c.statements with
  | some cache =>
    { c with
      statements := some (cache.insert cql statement), stats := c.stats.countPrepare.countMiss }
  | none => { c with stats := c.stats.countPrepare }

/-- What preparing a statement comes to. -/
inductive Prepares (db : Backend World Prepared) (cql : String) (c : Conversation World Prepared) :
    Except Error Prepared → Conversation World Prepared → Prop
  /-- The statement is among those that are kept. -/
  | kept {cache : StatementCache Prepared} {statement : Prepared}
    (hc : c.client.statements = some cache) (h : cache.get? cql = some statement) :
    Prepares db cql c (.ok statement)
      { c with
        client :=
          { c.client with
            statements := some (cache.touch cql), stats := c.client.stats.countHit } }
  /-- The session refuses it. -/
  | refused {error : Error} {world : World}
    (h : c.client.statements.bind (·.get? cql) = none)
    (hw : db.prepare cql c.world = (.error error, world)) :
    Prepares db cql c (.error (prepareError cql error))
      { client := { c.client with stats := c.client.stats.countPrepare.countFailure }, world
        events := c.events ++ [.call (.prepare cql (.error error)),
          .notice (.prepareFailed (prepareError cql error))] }
  /-- The session prepares it. -/
  | prepared {statement : Prepared} {world : World}
    (h : c.client.statements.bind (·.get? cql) = none)
    (hw : db.prepare cql c.world = (.ok statement, world)) :
    Prepares db cql c (.ok statement)
      { client := c.client.keepStatement cql statement, world
        events := c.events ++ [.call (.prepare cql (.ok statement))] }

theorem prepares (db : Backend World Prepared) (cql : String) (c : Conversation World Prepared) :
    Prepares db cql c ((prepare db cql).runOn c).1 ((prepare db cql).runOn c).2 := by
  cases h : c.client.statements.bind (·.get? cql) with
  | some statement =>
    obtain ⟨cache, hc, hget⟩ := Option.bind_eq_some_iff.mp h
    have hrun : (prepare db cql).runOn c = (.ok statement,
        { c with
          client :=
            { c.client with
              statements := some (cache.touch cql), stats := c.client.stats.countHit } }) := by
      simp [prepare, runOn_bind, count, hc, hget]
    rw [hrun]
    exact Prepares.kept hc hget
  | none =>
    rcases hw : db.prepare cql c.world with ⟨error | statement, world⟩
    · have hrun : (prepare db cql).runOn c = (.error (prepareError cql error),
          { client := { c.client with stats := c.client.stats.countPrepare.countFailure }, world
            events := c.events ++ [.call (.prepare cql (.error error)),
              .notice (.prepareFailed (prepareError cql error))] }) := by
        simp [prepare, runOn_bind, count, h, hw]
      rw [hrun]
      exact Prepares.refused h hw
    · have hrun : (prepare db cql).runOn c = (.ok statement,
          { client := c.client.keepStatement cql statement, world
            events := c.events ++ [.call (.prepare cql (.ok statement))] }) := by
        cases hs : c.client.statements <;>
          simp_all [prepare, runOn_bind, count, keepStatement]
      rw [hrun]
      exact Prepares.prepared h hw

/-- A conversation after a statement has been announced to the log and counted. -/
def announced (operation : Option Operation) (cql : String) (cells : List Cell)
    (c : Conversation World Prepared) : Conversation World Prepared :=
  { client := { c.client with stats := c.client.stats.countStatement operation }
    world := c.world
    events := c.events ++ [.notice (.statementRun operation cells.length
      (Text.truncate c.client.config.logLimit cql))] }

/-- What running a statement comes to. -/
inductive Runs (db : Backend World Prepared) (operation : Option Operation) (cql : String)
    (cells : List Cell) (c : Conversation World Prepared) :
    Except Error ResultSet → Conversation World Prepared → Prop
  /-- The statement cannot be prepared. -/
  | unprepared {error : Error} {c' : Conversation World Prepared}
    (prep : Prepares db cql (announced operation cql cells c) (.error error) c') :
    Runs db operation cql cells c (.error error) c'
  /-- The session fails on it. -/
  | failed {statement : Prepared} {c₁ : Conversation World Prepared} {error : Error}
    {world : World}
    (prep : Prepares db cql (announced operation cql cells c) (.ok statement) c₁)
    (hw : db.execute statement cells c₁.world = (.error error, world)) :
    Runs db operation cql cells c (.error (executionError cql error))
      { client := { c₁.client with stats := c₁.client.stats.countFailure }, world
        events := c₁.events ++ [.call (.execute cql statement cells (.error error)),
          .notice (.executionFailed (executionError cql error))] }
  /-- It gives a result. -/
  | ran {statement : Prepared} {c₁ : Conversation World Prepared} {result : ResultSet}
    {world : World}
    (prep : Prepares db cql (announced operation cql cells c) (.ok statement) c₁)
    (hw : db.execute statement cells c₁.world = (.ok result, world)) :
    Runs db operation cql cells c (.ok result)
      { client := c₁.client, world
        events := c₁.events ++ [.call (.execute cql statement cells (.ok result))] }

theorem runs (db : Backend World Prepared) (operation : Option Operation) (cql : String)
    (cells : List Cell) (c : Conversation World Prepared) :
    Runs db operation cql cells c ((runStatement db operation cql cells).runOn c).1
      ((runStatement db operation cql cells).runOn c).2 := by
  -- A statement is announced before it is prepared, so that is where preparing starts from.
  have hprep := prepares db cql (announced operation cql cells c)
  rcases hrun : (prepare db cql).runOn (announced operation cql cells c) with
    ⟨error | statement, c₁⟩
  · rw [hrun] at hprep
    have hend : (runStatement db operation cql cells).runOn c = (.error error, c₁) := by
      rw [announced] at hrun
      simp [runStatement, runOn_bind, count, hrun]
    rw [hend]
    exact Runs.unprepared hprep
  · rw [hrun] at hprep
    rw [announced] at hrun
    rcases hw : db.execute statement cells c₁.world with ⟨error | result, world⟩
    · have hend : (runStatement db operation cql cells).runOn c =
          (.error (executionError cql error),
            { client := { c₁.client with stats := c₁.client.stats.countFailure }, world
              events := c₁.events ++ [.call (.execute cql statement cells (.error error)),
                .notice (.executionFailed (executionError cql error))] }) := by
        simp [runStatement, runOn_bind, count, hrun, hw]
      rw [hend]
      exact Runs.failed hprep hw
    · have hend : (runStatement db operation cql cells).runOn c =
          (.ok result,
            { client := c₁.client, world
              events := c₁.events ++ [.call (.execute cql statement cells (.ok result))] }) := by
        simp [runStatement, runOn_bind, count, hrun, hw]
      rw [hend]
      exact Runs.ran hprep hw

end Client

end WideColumn
