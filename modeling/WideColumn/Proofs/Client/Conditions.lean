import WideColumn.Proofs.Client.KeptStatements

/-! # The conditions of a run

The chain of a client is a function of what has been done with it: it holds the conditions asked for
since it was cleared last, in their order. Statements go out under these conditions and no others.
-/

namespace WideColumn

variable {World Prepared α β : Type} {db : Backend World Prepared}

/-! ## Chains and calls for conditions -/

namespace Filter

/-- The chain that calls for conditions make of an empty one. -/
def chain (filters : List Filter) : Chain := ⟨built filters, firstFault? filters⟩

theorem built_append (filters : List Filter) (f : Filter) :
    built (filters ++ [f]) = built filters ++ f.build.toOption.toList := by
  unfold built
  rw [List.filterMap_append]
  cases h : f.build <;> simp [h, Except.toOption]

/-- The fault of a later call counts only while there is none. -/
theorem firstFault?_append (filters : List Filter) (f : Filter) :
    firstFault? (filters ++ [f]) =
      (firstFault? filters <|>
        match f.build with
        | .ok _ => none
        | .error fault => some fault) := by
  induction filters with
  | nil =>
    simp only [List.nil_append, firstFault?]
    cases f.build <;> rfl
  | cons g rest ih =>
    simp only [List.cons_append, firstFault?]
    cases g.build with
    | ok predicate => exact ih
    | error fault => rfl

theorem firstFault?_eq_none_iff (filters : List Filter) :
    firstFault? filters = none ↔ ∀ f ∈ filters, f.Valid := by
  induction filters with
  | nil => simp [firstFault?]
  | cons f rest ih =>
    rw [List.forall_mem_cons, ← ih, firstFault?, Valid]
    cases f.build <;> simp

/-- A call for a condition does to a chain what it does to the calls before it. -/
theorem chain_apply {c : Client Prepared} {filters : List Filter} (h : c.chain = chain filters)
    (f : Filter) : (f.apply c).chain = chain (filters ++ [f]) := by
  -- Only an operator in words can be wrong; the other calls go by this alone.
  have hok : ∀ predicate, f.build = .ok predicate →
      chain (filters ++ [f]) = c.chain.push predicate := by
    intro predicate hbuild
    rw [h, chain, built_append, firstFault?_append, hbuild]
    cases hfault : firstFault? filters <;> simp [chain, Chain.push, hfault, Except.toOption]
  cases f with
  | operator field word operand =>
    cases hcondition : Operator.condition word operand with
    | ok made =>
      rw [hok { field, condition := made } (by simp [build, hcondition, Except.map])]
      simp [apply, Client.whereOperator, Chain.pushOperator, hcondition]
    | error fault =>
      rw [chain, built_append, firstFault?_append]
      simp [apply, Client.whereOperator, Chain.pushOperator, hcondition, h, chain, build,
        Except.map, Except.toOption]
  | _ => exact (hok _ rfl).symm

/-- Conditions are joined by AND, whatever asks for them. -/
theorem connector_of_mem_built {filters : List Filter} {p : Predicate} (h : p ∈ built filters) :
    p.connector = .and := by
  obtain ⟨f, -, hf⟩ := List.mem_filterMap.mp h
  cases f with
  | operator field word operand =>
    cases hcondition : Operator.condition word operand with
    | ok made =>
      simp only [build, hcondition, Except.map, Except.toOption, Option.some.injEq] at hf
      rw [← hf]
    | error fault => simp [build, hcondition, Except.map, Except.toOption] at hf
  | _ =>
    simp only [build, Except.toOption, Option.some.injEq] at hf
    rw [← hf]

end Filter

/-! ## One command -/

/-- An error of a list of readings is the error of one of them. -/
theorem exists_of_mapM_eq_error {f : α → Except Error β} {xs : List α} {error : Error}
    (h : xs.mapM f = .error error) : ∃ x ∈ xs, f x = .error error := by
  induction xs with
  | nil => simp [pure, Except.pure] at h
  | cons x rest ih =>
    rw [List.mapM_cons] at h
    cases hx : f x with
    | error fault =>
      rw [hx] at h
      cases h
      exact ⟨x, List.mem_cons_self, hx⟩
    | ok y =>
      cases hrest : rest.mapM f with
      | ok ys => simp [hx, hrest, bind, Except.bind, pure, Except.pure] at h
      | error fault =>
        simp only [hx, hrest, bind, Except.bind, Except.error.injEq] at h
        obtain ⟨z, hz, hfault⟩ := ih (h ▸ hrest)
        exact ⟨z, List.mem_cons_of_mem _ hz, hfault⟩

/-- All that can be wrong with a result is that a row is missing or cannot be read. -/
theorem Terminal.error_of_read {t : Terminal} (hread : t.ReadsByDecoding) {autoConvert : Bool}
    {result : ResultSet} {error : Error} (h : t.read autoConvert result = .error error) :
    (∃ message, error = .notFound message) ∨ ∃ column message, error = .decode column message := by
  cases t with
  | getOneStrict table columns =>
    rw [read] at h
    split at h <;> cases h
    exact .inl ⟨_, rfl⟩
  | getAs reading table limit columns =>
    -- The first row that cannot be read gives its error.
    obtain ⟨row, -, hrow⟩ := exists_of_mapM_eq_error h
    exact .inr (hread row error hrow)
  | _ => cases h

/-- What an operation makes of its result is never an error of the session or the connection. -/
theorem Terminal.error_of_finish {t : Terminal} (hread : t.ReadsByDecoding) {autoConvert : Bool}
    {result : ResultSet} {error : Error} (h : t.finish autoConvert result = .error error) :
    (error.isFatal || error.isSessionError) = false := by
  rw [finish] at h
  cases hr : t.read autoConvert result with
  | ok rows =>
    rw [hr] at h
    cases h
  | error fault =>
    rw [hr] at h
    cases h
    obtain ⟨message, rfl⟩ | ⟨column, message, rfl⟩ := error_of_read hread hr <;> rfl

/-- The chain that an operation leaves depends on how it ended and on nothing else. -/
theorem Terminal.chain_act {t : Terminal} (hread : t.ReadsByDecoding)
    (c : Conversation World Prepared) :
    ((t.act db).runOn c).2.client.chain =
      if Entry.clears ⟨.finish t, ((t.act db).runOn c).1⟩ then .empty else c.client.chain := by
  have hchain := (Client.executes db t.request c).chain_eq
  rw [t.runOn_act_snd, Client.runOn_perform, Client.chain_settled, t.runOn_act,
    Client.runOn_perform]
  cases hr : ((Client.execute db t.request).runOn c).1 with
  | error error =>
    -- The error of the request is the outcome, and its kind decides.
    cases hkept : error.isFatal || error.isSessionError <;> simp [Entry.clears, hkept, hchain]
  | ok result =>
    -- The chain is empty by now, and no error that is still to come would have kept it.
    cases hfinish : t.finish (Client.settled (.ok result)
      ((Client.execute db t.request).runOn c).2).client.config.autoConvert result with
    | ok done => simp [Entry.clears, hfinish]
    | error error => simp [Entry.clears, hfinish, error_of_finish hread hfinish]

/-- Whether a command reads rows only in ways that fail for want of a decoding. -/
def Command.ReadsByDecoding : Command → Prop
  | finish t => t.ReadsByDecoding
  | filter _ | reset | compile _ | rawQuery _ => True

/-- A command does to the chain what it does to the calls that the chain was made by. -/
theorem Command.chain_act {command : Command} (hread : command.ReadsByDecoding)
    {c : Conversation World Prepared} {filters : List Filter}
    (h : c.client.chain = Filter.chain filters) :
    ((command.act db).runOn c).2.client.chain =
      Filter.chain (Entry.follow filters ⟨command, ((command.act db).runOn c).1⟩) := by
  cases command with
  | filter f => exact Filter.chain_apply h f
  | reset => rfl
  | compile request =>
    rw [runOn_act_snd, runOn_compile]
    exact h
  | rawQuery cql =>
    obtain ⟨r, hquery, -⟩ := Client.queries db cql c
    rw [runOn_act_snd]
    exact hquery.chain_eq.trans h
  | finish t =>
    show ((t.act db).runOn c).2.client.chain = _
    rw [Terminal.chain_act hread, h]
    show _ = Filter.chain
      (if Entry.clears ⟨.finish t, ((t.act db).runOn c).1⟩ then [] else filters)
    split <;> rfl

/-! ## All commands -/

theorem openFilters_append (history : List Entry) (e : Entry) :
    openFilters (history ++ [e]) = Entry.follow (openFilters history) e :=
  List.foldl_append

theorem Run.chain_eq {history : List Entry} {c : Conversation World Prepared}
    (run : Run db history c) (hread : ∀ e ∈ history, e.command.ReadsByDecoding) :
    c.client.chain = Filter.chain (openFilters history) := by
  -- Each command adds one entry to the history and does to the chain what the entry says.
  induction run with
  | start config uuids world => rfl
  | drift run world ih => exact ih hread
  | @step history c run command ih =>
    rw [openFilters_append]
    have hread' := List.forall_mem_append.mp hread
    apply Command.chain_act
    · exact hread'.2 _ (List.mem_singleton_self _)
    · exact ih hread'.1

/-! ## Statements under conditions -/

/-- A statement under conditions has exactly those conditions. -/
theorem Request.predicates_statement {request : Request} {predicates : List Predicate}
    {statement : Statement} (h : request.statement predicates = .ok statement)
    (hi : request.operation ≠ .insert) : statement.predicates = predicates := by
  cases request with
  | insert table payload => exact absurd rfl hi
  | update table payload =>
    cases hp : payload.isEmpty with
    | true => simp [Request.statement, hp] at h
    | false =>
      simp only [Request.statement, hp, Bool.false_eq_true, if_false, Except.ok.injEq] at h
      rw [← h]
  | select table limit columns | delete table limit =>
    simp only [Request.statement, Except.ok.injEq] at h
    rw [← h]

namespace Client

variable {c : Client Prepared} {filters : List Filter}

/-- A chain that compiles has been asked for by valid calls, and is compiled as it is. -/
theorem compile_eq_ok (h : c.chain = Filter.chain filters) {request : Request} {query : Query}
    (hquery : c.compile request = .ok query) :
    (∀ f ∈ filters, f.Valid) ∧ ∃ statement,
      request.statement (Filter.built filters) = .ok statement ∧ statement.compile = query := by
  rw [compile, h, Chain.error?, Filter.chain] at hquery
  cases hfault : Filter.firstFault? filters with
  | some fault => simp [hfault] at hquery
  | none =>
    rw [hfault] at hquery
    refine ⟨(Filter.firstFault?_eq_none_iff filters).mp hfault, ?_⟩
    cases hstatement : request.statement (Filter.built filters) with
    | error error => simp [hstatement, Except.map] at hquery
    | ok statement =>
      simp only [hstatement, Option.map_none, Except.map, Except.ok.injEq] at hquery
      exact ⟨statement, rfl, hquery⟩

/-- One invalid call spoils the chain for every request. -/
theorem compile_of_not_valid (h : c.chain = Filter.chain filters) {f : Filter}
    (hf : f ∈ filters) (hvalid : ¬ f.Valid) (request : Request) :
    ∃ message, c.compile request = .error (.invalidCondition message) := by
  rw [compile, h, Chain.error?, Filter.chain]
  cases hfault : Filter.firstFault? filters with
  | some fault => exact ⟨fault.message, rfl⟩
  | none => exact absurd ((Filter.firstFault?_eq_none_iff filters).mp hfault f hf) hvalid

/-- A request that succeeds has been compiled. -/
theorem Executes.compile_eq {c c' : Conversation World Prepared} {request : Request}
    {result : ResultSet} (h : Executes db request c (.ok result) c') :
    ∃ query, c.client.compile request = .ok query := by
  cases h with
  | @ran query _ _ _ _ _ conn find bind run => exact ⟨query, conn.compile_eq find⟩

end Client

/-- An operation without a statement fails, and says nothing about statements to the session. -/
theorem Terminal.fails_of_compile_eq_error {t : Terminal} {c : Conversation World Prepared}
    {fault : Error} (h : c.client.compile t.request = .error fault) :
    (∃ error, ((t.act db).runOn c).1 = .error error) ∧
      ∀ call ∈ (t.act db).calls c, call.cql? = none := by
  -- Whatever succeeds or reaches the session has been compiled.
  constructor
  · have hexecutes := Client.executes db t.request c
    rw [t.runOn_act, Client.runOn_perform]
    cases hr : ((Client.execute db t.request).runOn c).1 with
    | error error => exact ⟨error, rfl⟩
    | ok result =>
      rw [hr] at hexecutes
      obtain ⟨query, hquery⟩ := hexecutes.compile_eq
      cases hquery.symm.trans h
  · intro call hcall
    cases hcql : call.cql? with
    | none => rfl
    | some cql =>
      obtain ⟨query, hquery, -⟩ := compile_of_mem_calls hcall hcql
      cases hquery.symm.trans h

/-- Whether the requests of a client go out under the conditions of some calls and no others. -/
structure Conversation.Follows (db : Backend World Prepared) (c : Conversation World Prepared)
    (filters : List Filter) : Prop where
  /-- The conditions that wait are those that could be built. -/
  pending : c.client.pending = Filter.built filters
  /-- They are all joined by AND. -/
  joined : ∀ p ∈ c.client.pending, p.connector = .and
  /-- What reaches the session has exactly these conditions and is what compiling it gives. -/
  handed : ∀ t : Terminal, t.request.operation ≠ .insert →
    ∀ call ∈ (t.act db).calls c, ∀ cql, call.cql? = some cql →
      (∀ f ∈ filters, f.Valid) ∧ ∃ statement,
        t.request.statement (Filter.built filters) = .ok statement ∧
        statement.predicates = Filter.built filters ∧
        c.client.compile t.request = .ok statement.compile ∧ statement.compile.cql = cql
  /-- What is executed has been prepared from its text, now or before. -/
  executed : ∀ t : Terminal, ∀ cql statement cells outcome,
    .execute cql statement cells outcome ∈ (t.act db).calls c →
      .prepare cql (.ok statement) ∈ ((t.act db).runOn c).2.calls
  /-- After an invalid call nothing succeeds and nothing reaches the session. -/
  spoiled : (∃ f ∈ filters, ¬ f.Valid) →
    (∀ request, ∃ message, c.client.compile request = .error (.invalidCondition message)) ∧
    ∀ t : Terminal, (∃ error, ((t.act db).runOn c).1 = .error error) ∧
      ∀ call ∈ (t.act db).calls c, call.cql? = none

/-- **No condition is lost, repeated, moved or carried over:** after any run, the conditions are
those asked for since the chain was cleared last. -/
theorem Run.follows_openFilters {history : List Entry} {c : Conversation World Prepared}
    (run : Run db history c) (hread : ∀ e ∈ history, e.command.ReadsByDecoding) :
    c.Follows db (openFilters history) := by
  have hchain := run.chain_eq hread
  have hpending : c.client.pending = Filter.built (openFilters history) := by
    rw [Client.pending, hchain]
    rfl
  refine ⟨hpending, ?_, ?_, ?_, ?_⟩
  · intro p hp
    rw [hpending] at hp
    exact Filter.connector_of_mem_built hp
  · intro t hi call hcall cql hcql
    obtain ⟨query, hquery, rfl⟩ := Terminal.compile_of_mem_calls hcall hcql
    obtain ⟨hvalid, statement, hstatement, rfl⟩ := Client.compile_eq_ok hchain hquery
    exact ⟨hvalid, statement, hstatement, Request.predicates_statement hstatement hi, hquery, rfl⟩
  · intro t cql statement cells outcome hcall
    have hgenuine := (run.step (.finish t)).genuine
    apply hgenuine.executed cql statement cells outcome
    exact List.mem_of_mem_drop hcall
  · rintro ⟨f, hf, hvalid⟩
    have hcompile := Client.compile_of_not_valid hchain hf hvalid
    refine ⟨hcompile, fun t => ?_⟩
    obtain ⟨message, hmessage⟩ := hcompile t.request
    exact Terminal.fails_of_compile_eq_error hmessage

/-- A condition that was dropped before another one was asked for. -/
theorem Run.follows_openFilters_delete :
    let history : List Entry := [⟨.filter (.raw "stale"), .ok ()⟩, ⟨.reset, .ok ()⟩,
      ⟨.filter (.equal "id" (.int 7)), .ok ()⟩]
    let c₀ := Conversation.fresh {} { tables := [("users", [("id", .int)])] }
    let c := { c₀ with client := c₀.client.whereEqual "id" (.int 7) }
    Run Memory.backend history c ∧ (∀ e ∈ history, e.command.ReadsByDecoding) ∧
      c.client.pending = [{ field := "id", condition := .eq (.int 7) }] ∧
      (((Terminal.delete "users" none).act Memory.backend).calls c).filterMap Call.cql? =
        ["DELETE FROM users WHERE  id = ?", "DELETE FROM users WHERE  id = ?"] := by
  intro history c₀ c
  have run : Run Memory.backend history c :=
    (((Run.start {} default c₀.world).step (.filter (.raw "stale"))).step .reset).step
      (.filter (.equal "id" (.int 7)))
  have hread : ∀ e ∈ history, e.command.ReadsByDecoding := by
    simp [history, Command.ReadsByDecoding]
  refine ⟨run, hread, (Run.follows_openFilters run hread).pending, ?_⟩
  decide +kernel

end WideColumn
