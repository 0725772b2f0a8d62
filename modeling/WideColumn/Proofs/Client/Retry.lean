import WideColumn.Proofs.Client.Run
import WideColumn.Proofs.Conversion.Minting

/-! # Trying again

What an operation that the session let down leaves behind: a client that is ready to do the same
again, with the same statement and the same cells, whatever the catalog says by then. -/

namespace WideColumn

variable {World Prepared : Type}

/-! ## What has been settled before a statement goes out -/

theorem Schema.table_ofColumns (table : String) (columns : List Column) :
    (Schema.ofColumns table columns).table = table := by
  have hfold : ∀ s : Schema,
      (columns.foldl (fun s column => s.withColumn column.1 column.2) s).table = s.table := by
    induction columns with
    | nil =>
      intro s
      rfl
    | cons column rest ih =>
      intro s
      exact ih (s.withColumn column.1 column.2)
  exact hfold (.empty table)

namespace Client

variable {db : Backend World Prepared} {c c' : Conversation World Prepared} {request : Request}
  {query : Query} {cells : List Cell}

theorem Connects.connection_eq (h : Connects db c (.ok ()) c') : c'.client.connection = .ready := by
  cases h with
  | ready h => exact h
  | opened h hw => rfl

theorem Connects.of_ready {r : Except Error Unit} (h : Connects db c r c')
    (hc : c.client.connection = .ready) : r = .ok () ∧ c' = c := by
  cases h with
  | ready h => exact ⟨rfl, rfl⟩
  | disabled h | opened h hw | refused h hw => cases hc.symm.trans h

theorem Connects.of_failed {r : Except Error Unit} (h : Connects db c r c') {message : String}
    (hc : c.client.connection = .failed message) : r = .error (.connect message) := by
  cases h with
  | disabled h =>
    cases hc.symm.trans h
    rfl
  | ready h | opened h hw | refused h hw => cases hc.symm.trans h

/-- Once loaded, a schema is kept. -/
theorem Loads.needsRefresh_eq {table : String} (h : Loads db table c (.ok ()) c') :
    c'.client.schemas.needsRefresh table = false := by
  cases h with
  | kept h => exact h
  | loaded h hw hne =>
    simp [SchemaCache.needsRefresh, SchemaCache.get?, SchemaCache.replace, Schema.table_ofColumns]

theorem Loads.of_kept {table : String} {r : Except Error Unit} (h : Loads db table c r c')
    (hc : c.client.schemas.needsRefresh table = false) : r = .ok () ∧ c' = c := by
  cases h with
  | kept h => exact ⟨rfl, rfl⟩
  | failed h hw | missing h hw | loaded h hw hne => cases hc.symm.trans h

/-- Whether a request would go to the session at once, with a statement and its cells. -/
structure Ready (request : Request) (query : Query) (cells : List Cell) (c : Client Prepared) :
    Prop where
  connection : c.connection = .ready
  policy : c.config.uuidWrites = .honor
  compiles : c.compile request = .ok query
  /-- The schema is kept, or there is no need for one. -/
  schema : (request.operation = .select ∧ query.params.isEmpty = true) ∨
    c.schemas.needsRefresh request.table = false
  /-- The cells do not depend on the supply of identifiers. -/
  binds : ∀ source, query.params.toCells (c.schemas.get? request.table) .honor source = .ok cells

theorem Finds.schema_kept (h : Finds db request c (.ok query) c') :
    (request.operation = .select ∧ query.params.isEmpty = true) ∨
      c'.client.schemas.needsRefresh request.table = false := by
  cases h with
  | unbound hs h hp => exact Or.inl ⟨hs, hp⟩
  | loaded load h hp => exact Or.inr load.needsRefresh_eq

/-- What preparing and running a statement changes in a client does not matter for the next try. -/
theorem Ready.of_runs (ready : Ready request query cells c.client) {operation : Option Operation}
    {cql : String} {others : List Cell} {count : Nat} {r : Except Error ResultSet}
    (run : Runs db operation cql others (mintedFor count c) r c') :
    Ready request query cells c'.client := by
  obtain ⟨statements, stats, h⟩ := run.client_eq
  rw [h]
  exact ⟨ready.connection, ready.policy, ready.compiles, ready.schema, ready.binds⟩

/-- **A statement that reached the session finds its client ready for another try.** -/
theorem Executes.ready {r : Except Error ResultSet} (h : Executes db request c r c')
    (hpolicy : c.client.config.uuidWrites = .honor) {made : List (Call Prepared)}
    (hmade : c'.calls = c.calls ++ made) {call : Call Prepared} (hcall : call ∈ made)
    (hcql : call.cql? ≠ none) :
    ∃ query cells, Ready request query cells c'.client ∧ call.Runs query.cql cells := by
  rcases h.silent_or_ran with ⟨made₁, hmade₁, hnone⟩ |
    ⟨query, cells, c₁, c₂, made₁, conn, find, bind, run, hmade₁, hcalls⟩
  · rw [hmade₁.made_eq hmade] at hcall
    exact absurd (hnone call hcall) hcql
  · rw [hmade₁.made_eq hmade] at hcall
    -- By the time a statement goes out, everything that the next try needs is in place.
    obtain ⟨connection, hclient₁⟩ := conn.client_eq
    obtain ⟨schemas, stats, hclient₂⟩ := find.client_eq
    have hconfig : c₂.client.config = c.client.config := by rw [hclient₂, hclient₁]
    have hready : Ready request query cells c₂.client := by
      refine ⟨?_, ?_, ?_, find.schema_kept, ?_⟩
      · rw [hclient₂]
        exact conn.connection_eq
      · rw [hconfig]
        exact hpolicy
      · rw [compile_congr (by rw [hclient₂]) request]
        exact find.compile_eq
      · intro source
        rw [cells?, hconfig, hpolicy] at bind
        rw [← bind]
        exact query.params.toCells_honor _ _ _
    exact ⟨query, cells, hready.of_runs run, (hcalls call hcall).resolve_left hcql⟩

/-- A client that is ready finds its statement without asking anyone. -/
theorem Ready.finds (ready : Ready request query cells c.client) {r : Except Error Query}
    (h : Finds db request c r c') : r = .ok query ∧ c' = c := by
  cases h with
  | unloaded load hp =>
    -- Only values ask for a schema, and for those it is there.
    rcases ready.schema with ⟨hs, hempty⟩ | hkept
    · obtain ⟨query', hquery, hne⟩ := hp hs
      cases ready.compiles.symm.trans hquery
      cases hempty.symm.trans hne
    · cases (load.of_kept hkept).1
  | uncompiled load h => cases ready.compiles.symm.trans h
  | unbound hs h hp =>
    cases ready.compiles.symm.trans h
    exact ⟨rfl, rfl⟩
  | loaded load h hp =>
    cases ready.compiles.symm.trans h
    rcases ready.schema with ⟨hs, hempty⟩ | hkept
    · cases hempty.symm.trans (hp hs)
    · exact ⟨rfl, (load.of_kept hkept).2⟩

/-- **A client that is ready hands out its statement and its cells at once.** -/
theorem Ready.runs (ready : Ready request query cells c.client) {r : Except Error ResultSet}
    (h : Executes db request c r c') :
    Runs db (some request.operation) query.cql cells (mintedFor query.params.size c) r c' := by
  have hbind : c.client.cells? request.table query.params = .ok cells := by
    rw [cells?, ready.policy]
    exact ready.binds _
  cases h with
  | unconnected conn => cases (conn.of_ready ready.connection).1
  | unfound conn find =>
    obtain ⟨-, rfl⟩ := conn.of_ready ready.connection
    cases (ready.finds find).1
  | unbound conn find bind =>
    obtain ⟨-, rfl⟩ := conn.of_ready ready.connection
    obtain ⟨hquery, rfl⟩ := ready.finds find
    cases hquery
    cases hbind.symm.trans bind
  | ran conn find bind run =>
    obtain ⟨-, rfl⟩ := conn.of_ready ready.connection
    obtain ⟨hquery, rfl⟩ := ready.finds find
    cases hquery
    cases hbind.symm.trans bind
    exact run

end Client

/-! ## Failures of the session -/

/-- How an error that a statement has met is made one of a kind. -/
inductive Error.Wrapped (kind : String → String → Error) (cql : String) : Error → Error → Prop
  /-- An error of the kind is kept as the session words it. -/
  | kept (text message : String) : Wrapped kind cql (kind text message) (kind text message)
  /-- Any other error gives its wording to one about the statement. -/
  | foreign {error : Error} (h : ∀ text message, error ≠ kind text message) :
    Wrapped kind cql error (kind cql error.message)

theorem Error.Wrapped.exists_eq {kind : String → String → Error} {cql : String}
    {error surfaced : Error} (h : error.Wrapped kind cql surfaced) :
    ∃ text message, surfaced = kind text message := by
  cases h with
  | kept text message => exact ⟨text, message, rfl⟩
  | foreign h => exact ⟨cql, _, rfl⟩

theorem Client.wrapped_prepareError (cql : String) (error : Error) :
    error.Wrapped .prepare cql (prepareError cql error) := by
  cases error with
  | prepare text message => exact .kept text message
  | _ => exact .foreign (by simp)

theorem Client.wrapped_executionError (cql : String) (error : Error) :
    error.Wrapped .execution cql (executionError cql error) := by
  cases error with
  | execution text message => exact .kept text message
  | _ => exact .foreign (by simp)

/-- A failed statement could not be prepared, or it was prepared and failed. -/
theorem Call.eq_of_surfaced {call : Call Prepared} {cql : String} (hcql : call.cql? = some cql)
    {error : Error} (herror : call.surfaced? = some error) :
    (∃ fault, call = .prepare cql (.error fault) ∧ error = Client.prepareError cql fault) ∨
      ∃ statement cells fault, call = .execute cql statement cells (.error fault) ∧
        error = Client.executionError cql fault := by
  cases call with
  | connect outcome | columns table outcome => cases hcql
  | prepare text outcome =>
    cases hcql
    cases outcome with
    | ok statement => cases herror
    | error fault =>
      cases herror
      exact .inl ⟨fault, rfl, rfl⟩
  | execute text statement cells outcome =>
    cases hcql
    cases outcome with
    | ok result => cases herror
    | error fault =>
      cases herror
      exact .inr ⟨statement, cells, fault, rfl, rfl⟩

/-- What a statement fails with is an error of the session, whatever the session calls it. -/
theorem Call.Runs.isSessionError_eq {call : Call Prepared} {cql : String} {cells : List Cell}
    (h : call.Runs cql cells) {error : Error} (herror : call.surfaced? = some error) :
    error.isSessionError = true := by
  obtain ⟨fault, -, rfl⟩ | ⟨statement, cells, fault, -, rfl⟩ := Call.eq_of_surfaced h.cql?_eq herror
  · obtain ⟨text, message, h⟩ := (Client.wrapped_prepareError cql fault).exists_eq
    rw [h]
    rfl
  · obtain ⟨text, message, h⟩ := (Client.wrapped_executionError cql fault).exists_eq
    rw [h]
    rfl

namespace Terminal

variable {db : Backend World Prepared} {t : Terminal} {c c' : Conversation World Prepared}
  {query : Query} {cells : List Cell}

/-- Whether an operation ends with an error and leaves the conditions alone, the fault of a
condition included. -/
def FailsInPlace (db : Backend World Prepared) (t : Terminal) (c : Conversation World Prepared)
    (error : Error) : Prop :=
  ((t.act db).runOn c).1 = .error error ∧ ((t.act db).runOn c).2.client.chain = c.client.chain

theorem failsInPlace {call : Call Prepared} (h : call ∈ (t.act db).calls c) {error : Error}
    (herror : call.surfaced? = some error)
    (hkept : (error.isFatal || error.isSessionError) = true) : t.FailsInPlace db c error := by
  obtain ⟨hr, hchain⟩ := act_of_surfaced h herror
  rw [if_pos hkept] at hchain
  exact ⟨hr, hchain⟩

/-- A client whose session could not be opened before fails in place, too. -/
theorem failsInPlace_of_failed {message : String} (h : c.client.connection = .failed message) :
    t.FailsInPlace db c (.connect message) := by
  have hexecutes := Client.executes db t.request c
  have hchain := hexecutes.chain_eq
  have hr : ((Client.execute db t.request).runOn c).1 = .error (.connect message) := by
    generalize ((Client.execute db t.request).runOn c).1 = r at hexecutes ⊢
    cases hexecutes with
    | unconnected conn =>
      cases conn.of_failed h
      rfl
    | unfound conn find | unbound conn find bind | ran conn find bind run =>
      cases conn.of_failed h
  unfold FailsInPlace
  rw [t.runOn_act, Client.runOn_perform, hr]
  refine ⟨rfl, ?_⟩
  show (Client.settled _ _).client.chain = _
  rw [Client.chain_settled]
  exact hchain

/-- An operation that the session let down leaves the client as the request left it. -/
theorem client_act {call : Call Prepared} (h : call ∈ (t.act db).calls c) {error : Error}
    (herror : call.surfaced? = some error)
    (hkept : (error.isFatal || error.isSessionError) = true) :
    ((t.act db).runOn c).2.client = ((Client.execute db t.request).runOn c).2.client := by
  have hr := (t.continues db c).surfaces call h error herror
  rw [t.runOn_act_snd, Client.runOn_perform, hr]
  show (Client.settled (.error error : Except Error ResultSet) _).client = _
  rw [Client.client_settled_error hkept]

/-- The first failure leaves the client ready. -/
theorem ready_act (hpolicy : c.client.config.uuidWrites = .honor) {call : Call Prepared}
    (h : call ∈ (t.act db).calls c) (hcql : call.cql? ≠ none) {error : Error}
    (herror : call.surfaced? = some error) :
    ∃ query cells, Client.Ready t.request query cells ((t.act db).runOn c).2.client ∧
      call.Runs query.cql cells := by
  obtain ⟨query, cells, hready, hruns⟩ := (Client.executes db t.request c).ready hpolicy
    (t.continues db c).calls_eq h hcql
  refine ⟨query, cells, ?_, hruns⟩
  rw [client_act h herror (by rw [hruns.isSessionError_eq herror, Bool.or_true])]
  exact hready

/-- The calls of an operation of a client that is ready. -/
theorem runs_of_ready (ready : Client.Ready t.request query cells c.client) :
    (∀ call ∈ (t.act db).calls c, call.Runs query.cql cells) ∧
      (∀ result, ((Client.execute db t.request).runOn c).1 = .ok result →
        ((t.act db).calls c).filterMap Call.executed? = [(query.cql, cells)]) ∧
      ∀ error, ((Client.execute db t.request).runOn c).1 = .error error →
        ∃ call ∈ (t.act db).calls c, call.surfaced? = some error := by
  obtain ⟨made, hmade, hruns⟩ := (ready.runs (Client.executes db t.request c)).continues
  have hcalls : made = (t.act db).calls c := (t.continues db c).made_eq hmade.calls_eq
  rw [← hcalls]
  exact hruns

/-- One more failure leaves a client that is ready as ready as it was. -/
theorem ready_of_ready (ready : Client.Ready t.request query cells c.client) {call : Call Prepared}
    (h : call ∈ (t.act db).calls c) {error : Error} (herror : call.surfaced? = some error) :
    Client.Ready t.request query cells ((t.act db).runOn c).2.client ∧
      ((t.act db).runOn c).2.client.chain = c.client.chain := by
  have hsession := ((runs_of_ready ready).1 call h).isSessionError_eq herror
  have hkept : (error.isFatal || error.isSessionError) = true := by rw [hsession, Bool.or_true]
  refine ⟨?_, (failsInPlace h herror hkept).2⟩
  rw [client_act h herror hkept]
  exact ready.of_runs (ready.runs (Client.executes db t.request c))

/-! ## Any number of tries -/

/-- The conversations that trying an operation again and again leads to, as long as every try meets
a failure. The database may change in between. -/
inductive Retries (db : Backend World Prepared) (t : Terminal) (c : Conversation World Prepared) :
    Conversation World Prepared → Prop
  /-- No further try. -/
  | none : Retries db t c c
  /-- The database changes by itself. -/
  | drift {c' : Conversation World Prepared} (tries : Retries db t c c') (world : World) :
    Retries db t c { c' with world }
  /-- One more try fails. -/
  | again {c' : Conversation World Prepared} (tries : Retries db t c c') {call : Call Prepared}
    (h : call ∈ (t.act db).calls c') {error : Error} (herror : call.surfaced? = some error) :
    Retries db t c ((t.act db).runOn c').2

theorem Retries.ready (tries : Retries db t c c')
    (h : Client.Ready t.request query cells c.client) :
    Client.Ready t.request query cells c'.client ∧ c'.client.chain = c.client.chain := by
  -- Being ready is what carries over from one try to the next.
  induction tries with
  | none => exact ⟨h, rfl⟩
  | drift tries world ih => exact ih
  | again tries hcall herror ih =>
    obtain ⟨hready, hchain⟩ := ready_of_ready ih.1 hcall herror
    exact ⟨hready, hchain.trans ih.2⟩

/-- A try without failures does what was to be done, and then the conditions are settled. -/
theorem act_of_ready (ready : Client.Ready t.request query cells c.client)
    (h : ∀ call ∈ (t.act db).calls c, call.surfaced? = none) :
    ((t.act db).calls c).filterMap Call.executed? = [(query.cql, cells)] ∧
      (∃ result, ((t.act db).runOn c).1 = t.finish c.client.config.autoConvert result) ∧
      ((t.act db).runOn c).2.client.chain = .empty := by
  obtain ⟨-, hexecuted, hfailed⟩ := @runs_of_ready _ _ db t c query cells ready
  rw [t.runOn_act, Client.runOn_perform]
  cases hr : ((Client.execute db t.request).runOn c).1 with
  | error error =>
    obtain ⟨call, hcall, herror⟩ := hfailed error hr
    cases (h call hcall).symm.trans herror
  | ok result =>
    refine ⟨hexecuted result hr, ⟨result, ?_⟩, rfl⟩
    obtain ⟨connection, schemas, minted, statements, stats, hclient⟩ :=
      (Client.executes db t.request c).client_eq
    show t.finish ((Client.execute db t.request).runOn c).2.client.config.autoConvert result = _
    rw [hclient]

/-- **An operation that the session let down can be tried again.** The error says where it failed,
in the words of the session whatever it took the error for, and the conditions stay. Where
identifiers are written as given, trying again goes on with the same statement and the same cells,
and the conditions are settled when it gets through. -/
theorem retryable (db : Backend World Prepared) (t : Terminal) (c : Conversation World Prepared) :
    (∀ message, c.client.connection = .failed message →
      t.FailsInPlace db c (.connect message)) ∧
    (∀ error, .connect (.error error) ∈ (t.act db).calls c →
      t.FailsInPlace db c (.connect error.connectMessage)) ∧
    (∀ cql error, .prepare cql (.error error) ∈ (t.act db).calls c →
      ∃ text message, Client.prepareError cql error = .prepare text message ∧
        error.Wrapped .prepare cql (.prepare text message) ∧
        t.FailsInPlace db c (.prepare text message)) ∧
    (∀ cql statement cells error,
      .execute cql statement cells (.error error) ∈ (t.act db).calls c →
      ∃ text message, Client.executionError cql error = .execution text message ∧
        error.Wrapped .execution cql (.execution text message) ∧
        t.FailsInPlace db c (.execution text message)) ∧
    (c.client.config.uuidWrites = .honor → ∀ call ∈ (t.act db).calls c, call.cql? ≠ none →
      ∀ error, call.surfaced? = some error → ∃ query cells,
        c.client.compile t.request = .ok query ∧ call.Runs query.cql cells ∧
        (∀ source, query.params.toCells
          (((t.act db).runOn c).2.client.schemas.get? t.request.table) .honor source =
            .ok cells) ∧
        ∀ c', Retries db t ((t.act db).runOn c).2 c' → c'.client.chain = c.client.chain ∧
          ((∀ call ∈ (t.act db).calls c', call.surfaced? = none) →
            ((t.act db).calls c').filterMap Call.executed? = [(query.cql, cells)] ∧
            (∃ result, ((t.act db).runOn c').1 = t.finish c'.client.config.autoConvert result) ∧
            ((t.act db).runOn c').2.client.chain = .empty)) := by
  refine ⟨?_, ?_, ?_, ?_, ?_⟩
  · intro message h
    exact failsInPlace_of_failed h
  · intro error h
    exact failsInPlace h rfl rfl
  · intro cql error h
    have hwrapped := Client.wrapped_prepareError cql error
    obtain ⟨text, message, heq⟩ := hwrapped.exists_eq
    exact ⟨text, message, heq, heq ▸ hwrapped, failsInPlace h (congrArg some heq) rfl⟩
  · intro cql statement cells error h
    have hwrapped := Client.wrapped_executionError cql error
    obtain ⟨text, message, heq⟩ := hwrapped.exists_eq
    exact ⟨text, message, heq, heq ▸ hwrapped, failsInPlace h (congrArg some heq) rfl⟩
  -- The first failure makes the client ready, and it stays so until a try gets through.
  · intro hpolicy call h hcql error herror
    obtain ⟨query, cells, hready, hruns⟩ := ready_act hpolicy h hcql herror
    have hkept : (error.isFatal || error.isSessionError) = true := by
      rw [hruns.isSessionError_eq herror, Bool.or_true]
    have hchain := (failsInPlace h herror hkept).2
    refine ⟨query, cells, ?_, hruns, hready.binds, fun c' tries => ?_⟩
    · rw [← Client.compile_congr hchain t.request]
      exact hready.compiles
    · obtain ⟨hready', hchain'⟩ := tries.ready hready
      exact ⟨hchain'.trans hchain, act_of_ready hready'⟩

/-- A removal that cannot be prepared at first, fails when it is tried again, and then gets
through. -/
theorem retryable_delete :
    let world : Memory :=
      { tables := [("users", [("id", .int)])]
        prepareFailure := some ⟨"DELETE", .other "overloaded"⟩ }
    let c₀ := Conversation.fresh { uuidWrites := .honor } world
    let c := { c₀ with client := c₀.client.whereEqual "id" (.int 7) }
    let t := delete "users" none
    let c₁ := ((t.act Memory.backend).runOn c).2
    let slow : Memory :=
      { c₁.world.clearFailures with executeFailure := some ⟨"DELETE", .other "timeout"⟩ }
    let c₂ := { c₁ with world := slow }
    let c₃ := ((t.act Memory.backend).runOn c₂).2
    let c₄ := { c₃ with world := c₃.world.clearFailures }
    ((t.act Memory.backend).runOn c).1 =
        .error (.prepare "DELETE FROM users WHERE  id = ?" "overloaded") ∧
      ((t.act Memory.backend).runOn c₂).1 =
        .error (.execution "DELETE FROM users WHERE  id = ?" "timeout") ∧
      c₄.client.chain = c.client.chain ∧
      ((t.act Memory.backend).calls c₄).filterMap Call.executed? =
        [("DELETE FROM users WHERE  id = ?", [.int 7])] ∧
      ((t.act Memory.backend).runOn c₄).2.client.chain = .empty := by
  intro world c₀ c t c₁ slow c₂ c₃ c₄
  let cql := "DELETE FROM users WHERE  id = ?"
  obtain ⟨-, -, hprepare, -, hretry⟩ := retryable Memory.backend t c
  obtain ⟨-, -, -, hexecute, -⟩ := retryable Memory.backend t c₂
  obtain ⟨refused, hrefused, hcql, herror⟩ : ∃ call ∈ (t.act Memory.backend).calls c,
      call.cql? = some cql ∧ call.surfaced? = some (.prepare cql "overloaded") := by
    decide +kernel
  obtain ⟨failed, hfailed, hcql', herror'⟩ : ∃ call ∈ (t.act Memory.backend).calls c₂,
      call.cql? = some cql ∧ call.surfaced? = some (.execution cql "timeout") := by
    decide +kernel
  have hfirst : t.FailsInPlace Memory.backend c (.prepare cql "overloaded") := by
    -- The kind of the error tells which of the two calls it was.
    obtain ⟨fault, rfl, heq⟩ | ⟨-, -, fault, -, heq⟩ := Call.eq_of_surfaced hcql herror
    · obtain ⟨text, message, hkind, -, hplace⟩ := hprepare cql fault hrefused
      rwa [heq, hkind]
    · obtain ⟨text, message, hkind⟩ := (Client.wrapped_executionError cql fault).exists_eq
      cases heq.trans hkind
  have hsecond : t.FailsInPlace Memory.backend c₂ (.execution cql "timeout") := by
    obtain ⟨fault, -, heq⟩ | ⟨statement, cells, fault, rfl, heq⟩ :=
      Call.eq_of_surfaced hcql' herror'
    · obtain ⟨text, message, hkind⟩ := (Client.wrapped_prepareError cql fault).exists_eq
      cases heq.trans hkind
    · obtain ⟨text, message, hkind, -, hplace⟩ := hexecute cql statement cells fault hfailed
      rwa [heq, hkind]
  obtain ⟨query, cells, hquery, -, -, htries⟩ :=
    hretry rfl refused hrefused (by rw [hcql]; simp) _ herror
  -- Between the tries the database changes by itself.
  have htried : Retries Memory.backend t c₁ c₃ := (Retries.none.drift slow).again hfailed herror'
  obtain ⟨hchain, hagain⟩ := htries c₄ (htried.drift _)
  obtain ⟨-, -, hempty⟩ := hagain (by decide +kernel)
  exact ⟨hfirst.1, hsecond.1, hchain, by decide +kernel, hempty⟩

/-! ## Failures of the catalog -/

/-- **A failure of the catalog drops the conditions, unless it looks like another one.** It is
handed on as it is, and what becomes of the conditions depends on its kind alone. -/
theorem chain_act_of_columns_error {table : String} {error : Error}
    (h : .columns table (.error error) ∈ (t.act db).calls c) :
    ((t.act db).runOn c).1 = .error error ∧
      (((t.act db).runOn c).2.client.chain = c.client.chain ↔
        error.isFatal = true ∨ error.isSessionError = true ∨ c.client.chain = .empty) ∧
      (((t.act db).runOn c).2.client.chain ≠ c.client.chain →
        ((t.act db).runOn c).2.client.chain = .empty) := by
  obtain ⟨hr, hchain⟩ := act_of_surfaced h rfl
  refine ⟨hr, ?_, ?_⟩
  · rw [hchain]
    constructor
    · intro heq
      split at heq
      · next hkept =>
        rcases Bool.or_eq_true_iff.mp hkept with hfatal | hsession
        · exact Or.inl hfatal
        · exact Or.inr (Or.inl hsession)
      · exact Or.inr (Or.inr heq.symm)
    · rintro (hfatal | hsession | hempty)
      · simp [hfatal]
      · simp [hsession]
      · simp [hempty]
  · intro hne
    rw [hchain] at hne ⊢
    split at hne
    · exact absurd rfl hne
    · next hkept => rw [if_neg hkept]

/-- A removal whose lookup fails like a statement of the session keeps its condition. -/
theorem chain_act_of_columns_error_prepare :
    let error := Error.prepare "SELECT" "catalog timeout"
    let world : Memory := { tables := [("users", [("id", .int)])], columnsFailure := some error }
    let c₀ := Conversation.fresh {} world
    let c := { c₀ with client := c₀.client.whereEqual "id" (.int 7) }
    let t := delete "users" none
    .columns "users" (.error error) ∈ (t.act Memory.backend).calls c ∧
      ((t.act Memory.backend).runOn c).2.client.chain = c.client.chain := by
  intro error world c₀ c t
  have hcalls : (t.act Memory.backend).calls c =
      [.connect (.ok ()), .columns "users" (.error error)] := by
    rfl
  have h : .columns "users" (.error error) ∈ (t.act Memory.backend).calls c := by
    rw [hcalls]
    simp
  exact ⟨h, (chain_act_of_columns_error h).2.1.mpr (Or.inr (Or.inl rfl))⟩

/-- A removal whose lookup fails in another way loses its condition, and then removes all rows. -/
theorem condition_lost_to_catalog :
    let error := Error.other "catalog timeout"
    let world : Memory := { tables := [("users", [("id", .int)])], columnsFailure := some error }
    let c₀ := Conversation.fresh {} world
    let c := { c₀ with client := c₀.client.whereEqual "id" (.int 7) }
    let t := delete "users" none
    let c₁ := ((t.act Memory.backend).runOn c).2
    let c₂ := { c₁ with world := c₁.world.clearFailures }
    Run Memory.backend [⟨.filter (.equal "id" (.int 7)), .ok ()⟩] c ∧
      .columns "users" (.error error) ∈ (t.act Memory.backend).calls c ∧
      c.client.pending = [{ field := "id", condition := .eq (.int 7) }] ∧
      c₁.client.chain = .empty ∧
      ((t.act Memory.backend).calls c₂).filterMap Call.executed? = [("DELETE FROM users", [])] := by
  intro error world c₀ c t c₁ c₂
  have run : Run Memory.backend [⟨.filter (.equal "id" (.int 7)), .ok ()⟩] c :=
    (Run.start {} default world).step (.filter (.equal "id" (.int 7)))
  have hcalls : (t.act Memory.backend).calls c =
      [.connect (.ok ()), .columns "users" (.error error)] := by
    rfl
  refine ⟨run, ?_, rfl, rfl, ?_⟩
  · rw [hcalls]
    simp
  · decide +kernel

end Terminal

end WideColumn
