import WideColumn.Proofs.Backend.Behaviour
import WideColumn.Proofs.Client.Conditions
import WideColumn.Proofs.Client.Failures
import WideColumn.Proofs.Client.KeptStatements
import WideColumn.Proofs.Client.Scripts
import WideColumn.Proofs.Conversion.BoundCells
import WideColumn.Proofs.Conversion.Minting

/-! # What was done before does not matter

Over a database whose answers do not depend on the past, an operation comes to what its chain and
its arguments say, whatever the client did before: which schema it keeps, and which statements.
Values are always converted by the columns of the operation's own table. -/

namespace WideColumn

variable {World Prepared Queue : Type} {db : Backend World Prepared}
  {catalog : String → List Column} {queue : World → Queue}

/-! ## What a client may have kept -/

/-- Whether a client has kept nothing but what the database would tell it again. -/
structure Conversation.UpToDate (db : Backend World Prepared) (catalog : String → List Column)
    (c : Conversation World Prepared) : Prop where
  connection : ∀ message, c.client.connection ≠ .failed message
  schema : ∀ schema, c.client.schemas.current = some schema →
    schema = .ofColumns schema.table (catalog schema.table) ∧
      (catalog schema.table).isEmpty = false
  kept : ∀ cache, c.client.statements = some cache → ∀ entry ∈ cache.entries, ∀ w,
    (db.prepare entry.1 w).1 = .ok entry.2

namespace Conversation.UpToDate

variable {c c' : Conversation World Prepared}

theorem connects (law : db.Predictable catalog queue) {r : Except Error Unit}
    (conn : Client.Connects db c r c') (h : c.UpToDate db catalog) : c'.UpToDate db catalog := by
  cases conn with
  | ready hc | disabled hc => exact h
  | opened hc hw => exact { h with connection := by simp }
  | refused hc hw =>
    have hconnect := (law.connect c.world).1
    rw [hw] at hconnect
    cases hconnect

theorem loads (law : db.Predictable catalog queue) {table : String} {r : Except Error Unit}
    (load : Client.Loads db table c r c') (h : c.UpToDate db catalog) :
    c'.UpToDate db catalog := by
  cases load with
  | kept hc | failed hc hw | missing hc hw => exact { h with }
  | loaded hc hw hne =>
    have hcolumns := (law.columns table c.world).1
    rw [hw] at hcolumns
    cases hcolumns
    refine { h with schema := ?_ }
    rintro _ ⟨⟩
    rw [Schema.table_ofColumns]
    exact ⟨rfl, hne⟩

theorem prepares (law : db.Predictable catalog queue) {cql : String} {r : Except Error Prepared}
    (prep : Client.Prepares db cql c r c') (h : c.UpToDate db catalog) :
    c'.UpToDate db catalog := by
  cases prep with
  | @kept cache statement hcache hget =>
    refine { h with kept := ?_ }
    rintro _ ⟨⟩ entry hentry
    rw [StatementCache.entries_touch] at hentry
    exact h.kept cache hcache entry hentry
  | refused hget hw => exact { h with }
  | @prepared statement world hget hw =>
    have hstatement (w : World) : (db.prepare cql w).1 = .ok statement := by
      rw [law.prepare cql w c.world, hw]
    obtain ⟨statements, stats, hclient⟩ := (Client.Prepares.prepared hget hw).client_eq
    refine ⟨?_, ?_, ?_⟩
    · rw [hclient]
      exact h.connection
    · rw [hclient]
      exact h.schema
    · intro cache hcache entry hentry
      rcases Client.mem_of_mem_keepStatement hcache hentry with ⟨before, hbefore, hmem⟩ | rfl
      · exact h.kept before hbefore entry hmem
      · exact hstatement

theorem runs (law : db.Predictable catalog queue) {operation : Option Operation} {cql : String}
    {cells : List Cell} {r : Except Error ResultSet}
    (run : Client.Runs db operation cql cells c r c') (h : c.UpToDate db catalog) :
    c'.UpToDate db catalog := by
  have hannounced : (Client.announced operation cql cells c).UpToDate db catalog := { h with }
  cases run with
  | unprepared prep => exact prepares law prep hannounced
  | failed prep hw | ran prep hw => exact { prepares law prep hannounced with }

theorem invariant (law : db.Predictable catalog queue) :
    Invariant db fun c : Conversation World Prepared => c.UpToDate db catalog where
  drift _ h := { h with }
  rechain _ h := { h with }
  report _ h := { h with }
  mint _ h := { h with }
  connects := connects law
  loads := loads law
  runs := runs law

end Conversation.UpToDate

/-- **In every run a client has kept nothing but what the database would tell it again.** -/
theorem Run.upToDate (law : db.Predictable catalog queue) {history : List Entry}
    {c : Conversation World Prepared} (run : Run db history c) : c.UpToDate db catalog := by
  refine (Conversation.UpToDate.invariant law).run ?_ run
  intro config uuids world
  refine ⟨?_, ?_, ?_⟩
  · rintro message ⟨⟩
  · rintro schema ⟨⟩
  · intro cache hcache entry hentry
    rw [Client.eq_empty_of_new hcache] at hentry
    cases hentry

/-! ## What a request comes to -/

namespace Client

variable (catalog : String → List Column) (c : Client Prepared) (request : Request)

/-- The statement of a request, unless the catalog has no columns for it. A read needs columns for
its values only. -/
def found : Except Error Query :=
  if request.operation = .select then
    match c.compile request with
    | .error error => .error error
    | .ok query =>
      if query.params.isEmpty || !(catalog request.table).isEmpty then .ok query
      else .error (.schemaUnavailable request.table)
  else if (catalog request.table).isEmpty then .error (.schemaUnavailable request.table)
  else c.compile request

/-- The statement of a request and the cells of its values, by the columns of its own table. -/
def bound : Except Error (Query × List Cell) := do
  let query ← c.found catalog request
  let cells ← query.params.toCells (some (.ofColumns request.table (catalog request.table)))
    c.config.uuidWrites c.uuids
  return (query, cells)

variable {catalog c request}

theorem bound_of_found {query : Query} (h : c.found catalog request = .ok query) :
    c.bound catalog request =
      (query.params.toCells (some (.ofColumns request.table (catalog request.table)))
        c.config.uuidWrites c.uuids).map fun cells => (query, cells) := by
  rw [bound, h]
  rfl

end Client

/-- What is executed of a text and its cells: nothing, if the statement cannot be prepared. -/
def Backend.executed (db : Backend World Prepared) (w : World) (cql : String)
    (cells : List Cell) : List (String × List Cell) :=
  if (db.prepare cql w).1.isOk then [(cql, cells)] else []

/-! ## Phases -/

/-- Looking for a statement, branch by branch. -/
theorem Client.runOn_findStatement (db : Backend World Prepared) (request : Request)
    (c : Conversation World Prepared) :
    (findStatement db request).runOn c =
      if request.operation = .select then
        match c.client.compile request with
        | .error error => (.error error, c)
        | .ok query =>
          if query.params.isEmpty then (.ok query, c)
          else
            match (loadSchema db request.table).runOn c with
            | (.ok _, c') => (.ok query, c')
            | (.error error, c') => (.error error, c')
      else
        match (loadSchema db request.table).runOn c with
        | (.ok _, c') => (c'.client.compile request, c')
        | (.error error, c') => (.error error, c') := by
  by_cases hs : request.operation = .select
  · cases hc : c.client.compile request with
    | error error => simp [findStatement, Action.runOn_bind, hs, hc]
    | ok query =>
      cases hp : query.params.isEmpty with
      | true => simp [findStatement, Action.runOn_bind, hs, hc, hp]
      | false =>
        rcases hrun : (loadSchema db request.table).runOn c with ⟨_ | _, _⟩ <;>
          simp [findStatement, Action.runOn_bind, hs, hc, hp, hrun]
  · rcases hrun : (loadSchema db request.table).runOn c with ⟨_ | _, _⟩ <;>
      simp [findStatement, Action.runOn_bind, hs, hrun]

/-- What comes of a text depends on what statements are answered from. -/
theorem Backend.Predictable.answer_eq (law : db.Predictable catalog queue) {w w' : World}
    (hqueue : queue w = queue w') (cql : String) (cells : List Cell) :
    db.answer w cql cells = db.answer w' cql cells ∧
      db.executed w cql cells = db.executed w' cql cells := by
  have hexecute (statement : Prepared) :
      (db.execute statement cells w).1 = (db.execute statement cells w').1 :=
    law.execute statement cells w w' hqueue
  rw [Backend.answer, Backend.answer, Backend.executed, Backend.executed, law.prepare cql w w']
  simp only [hexecute, and_self]

namespace Conversation.UpToDate

variable {c c' : Conversation World Prepared}

/-- Opening the session succeeds. -/
theorem connects_eq (law : db.Predictable catalog queue) (h : c.UpToDate db catalog)
    {r : Except Error Unit} (conn : Client.Connects db c r c') :
    r = .ok () ∧ queue c'.world = queue c.world := by
  cases conn with
  | ready hc => exact ⟨rfl, rfl⟩
  | disabled hc => exact absurd hc (h.connection _)
  | opened hc hw =>
    have hqueue := (law.connect c.world).2
    rw [hw] at hqueue
    exact ⟨rfl, hqueue⟩
  | refused hc hw =>
    have hconnect := (law.connect c.world).1
    rw [hw] at hconnect
    cases hconnect

/-- Loading a schema comes to what the catalog has, kept or not. -/
theorem loads_eq (law : db.Predictable catalog queue) (h : c.UpToDate db catalog) {table : String}
    {r : Except Error Unit} (load : Client.Loads db table c r c') :
    r = (if (catalog table).isEmpty then .error (.schemaUnavailable table) else .ok ()) ∧
      queue c'.world = queue c.world ∧
      (r = .ok () → c'.client.schemas.get? table = some (.ofColumns table (catalog table))) := by
  have hcolumns := law.columns table c.world
  cases load with
  | kept hc =>
    obtain ⟨schema, hget⟩ : ∃ schema, c.client.schemas.get? table = some schema := by
      simpa [SchemaCache.needsRefresh, Option.isSome_iff_exists] using hc
    obtain ⟨hcurrent, htable⟩ := Option.filter_eq_some_iff.mp hget
    obtain ⟨hschema, hne⟩ := h.schema schema hcurrent
    rw [eq_of_beq htable] at hschema hne
    rw [hne]
    refine ⟨rfl, rfl, fun _ => ?_⟩
    rw [hget, hschema]
  | failed hc hw =>
    rw [hw] at hcolumns
    cases hcolumns.1
  | missing hc hw =>
    rw [hw] at hcolumns
    obtain ⟨hcolumns, hqueue⟩ := hcolumns
    rw [← Except.ok.inj hcolumns]
    exact ⟨rfl, hqueue, by simp⟩
  | @loaded columns _ hc hw hne =>
    rw [hw] at hcolumns
    obtain ⟨hcolumns, hqueue⟩ := hcolumns
    rw [← Except.ok.inj hcolumns, hne]
    refine ⟨rfl, hqueue, fun _ => ?_⟩
    simp [SchemaCache.get?, SchemaCache.replace, Schema.table_ofColumns]

/-- Looking for a statement comes to what the chain and the catalog say, and a statement with values
comes with the schema of its table. -/
theorem finds_eq (law : db.Predictable catalog queue) (h : c.UpToDate db catalog)
    (request : Request) {r : Except Error Query}
    (hrun : (Client.findStatement db request).runOn c = (r, c')) :
    r = c.client.found catalog request ∧ queue c'.world = queue c.world ∧
      ∀ query, r = .ok query → query.params.isEmpty = false →
        c'.client.schemas.get? request.table =
          some (.ofColumns request.table (catalog request.table)) := by
  have hload := Client.loads db request.table c
  rw [Client.runOn_findStatement] at hrun
  rw [Client.found]
  generalize (Client.loadSchema db request.table).runOn c = load at hload hrun
  obtain ⟨loaded, c₁⟩ := load
  obtain ⟨hloaded, hqueue, hschema⟩ := h.loads_eq law hload
  have hcompile : c₁.client.compile request = c.client.compile request :=
    Client.compile_congr hload.chain_eq request
  dsimp only at hloaded hqueue hschema hcompile
  -- A read goes without a schema as long as it has no values; a write never does.
  by_cases hs : request.operation = .select
  · cases hc : c.client.compile request with
    | error error =>
      obtain ⟨rfl, rfl⟩ : .error error = r ∧ c = c' := by simpa [hs, hc] using hrun
      exact ⟨by simp [hs], rfl, by simp⟩
    | ok query =>
      cases hp : query.params.isEmpty with
      | true =>
        obtain ⟨rfl, rfl⟩ : .ok query = r ∧ c = c' := by simpa [hs, hc, hp] using hrun
        refine ⟨by simp [hs, hp], rfl, ?_⟩
        rintro _ ⟨⟩ hne
        cases hp.symm.trans hne
      | false =>
        cases he : (catalog request.table).isEmpty with
        | true =>
          rw [he, if_pos rfl] at hloaded
          obtain ⟨rfl, rfl⟩ : .error (.schemaUnavailable request.table) = r ∧ c₁ = c' := by
            simpa [hs, hc, hp, hloaded] using hrun
          exact ⟨by simp [hs, hp], hqueue, by simp⟩
        | false =>
          rw [he, if_neg (by simp)] at hloaded
          obtain ⟨rfl, rfl⟩ : .ok query = r ∧ c₁ = c' := by
            simpa [hs, hc, hp, hloaded] using hrun
          exact ⟨by simp [hs], hqueue, fun _ _ _ => hschema hloaded⟩
  · cases he : (catalog request.table).isEmpty with
    | true =>
      rw [he, if_pos rfl] at hloaded
      obtain ⟨rfl, rfl⟩ : .error (.schemaUnavailable request.table) = r ∧ c₁ = c' := by
        simpa [hs, hloaded] using hrun
      exact ⟨by simp [hs], hqueue, by simp⟩
    | false =>
      rw [he, if_neg (by simp)] at hloaded
      obtain ⟨rfl, rfl⟩ : c.client.compile request = r ∧ c₁ = c' := by
        simpa [hs, hloaded, hcompile] using hrun
      exact ⟨by simp [hs], hqueue, fun _ _ _ => hschema hloaded⟩

/-- The cells of a statement that was found are those by the columns of its own table: either it has
no values, or the schema is that of the table. -/
theorem cells_eq {request : Request} {query : Query}
    (hhonor : c.client.config.uuidWrites = .honor)
    (hschema : query.params.isEmpty = false → c.client.schemas.get? request.table =
      some (.ofColumns request.table (catalog request.table))) (uuids : UuidSource) :
    c.client.cells? request.table query.params =
      query.params.toCells (some (.ofColumns request.table (catalog request.table))) .honor
        uuids := by
  rw [Client.cells?, hhonor]
  cases hp : query.params.isEmpty with
  | true =>
    have hnone : query.params.params = [] := List.isEmpty_iff.mp hp
    rw [BindParams.toCells, BindParams.toCells, hnone]
    rfl
  | false =>
    rw [hschema hp]
    exact query.params.toCells_honor _ _ _

/-- A statement at hand is the one that the session would prepare now, kept or not. -/
theorem prepares_ok (law : db.Predictable catalog queue) (h : c.UpToDate db catalog) {cql : String}
    {statement : Prepared} (prep : Client.Prepares db cql c (.ok statement) c') :
    (db.prepare cql c.world).1 = .ok statement ∧ queue c'.world = queue c.world := by
  have hqueue := law.queue_prepare cql c.world
  cases prep with
  | @kept cache _ hcache hget =>
    exact ⟨h.kept cache hcache _ (StatementCache.mem_of_get? hget) c.world, rfl⟩
  | prepared hget hw =>
    rw [hw] at hqueue ⊢
    exact ⟨rfl, hqueue⟩

/-- Running a statement comes to the answer of the session. -/
theorem runs_eq (law : db.Predictable catalog queue) (h : c.UpToDate db catalog)
    {operation : Option Operation} {cql : String} {cells : List Cell}
    {r : Except Error ResultSet} (run : Client.Runs db operation cql cells c r c') :
    r = db.answer c.world cql cells ∧
      c'.executions = c.executions ++ db.executed c.world cql cells := by
  have hannounced : (Client.announced operation cql cells c).UpToDate db catalog := { h with }
  have hexecutions := Client.executions_announced operation cql cells c
  have hready {statement : Prepared} {c₁ : Conversation World Prepared}
      (prep : Client.Prepares db cql (Client.announced operation cql cells c) (.ok statement) c₁) :
      (db.prepare cql c.world).1 = .ok statement ∧
        (db.execute statement cells c₁.world).1 = (db.execute statement cells c.world).1 ∧
        c₁.executions = c.executions := by
    obtain ⟨hprepare, hqueue⟩ := hannounced.prepares_ok law prep
    exact ⟨hprepare, law.execute statement cells _ _ hqueue, prep.executions_eq.trans hexecutions⟩
  rw [Backend.answer, Backend.executed]
  cases run with
  | unprepared prep =>
    rw [prep.executions_eq, hexecutions]
    cases prep with
    | refused hget hw =>
      change db.prepare cql c.world = _ at hw
      rw [hw]
      exact ⟨rfl, (List.append_nil _).symm⟩
  | failed prep hw | ran prep hw =>
    obtain ⟨hprepare, hexecute, hbefore⟩ := hready prep
    rw [hw] at hexecute
    rw [Conversation.executions_of_calls (Conversation.calls_append _ _ _ _), hbefore, hprepare]
    refine ⟨?_, rfl⟩
    show _ = (db.execute _ cells c.world).1.mapError _
    rw [← hexecute]
    rfl

/-- Whether a request comes to what the chain, the catalog and the session say: its outcome and what
is executed. -/
structure ComesTo (db : Backend World Prepared) (catalog : String → List Column)
    (c : Conversation World Prepared) (request : Request) (r : Except Error ResultSet)
    (c' : Conversation World Prepared) : Prop where
  outcome : r = do
    let (query, cells) ← c.client.bound catalog request
    db.answer c.world query.cql cells
  executions : c'.executions = c.executions ++
    match c.client.bound catalog request with
    | .ok (query, cells) => db.executed c.world query.cql cells
    | .error _ => []

/-- What is found by then is told by the chain and the catalog, and nothing has been executed. -/
theorem findsQuery_eq (law : db.Predictable catalog queue) (h : c.UpToDate db catalog)
    (request : Request) {r : Except Error Query}
    (hrun : (Client.findsQuery db request).runOn c = (r, c')) :
    r = c.client.found catalog request ∧ queue c'.world = queue c.world ∧
      c'.UpToDate db catalog ∧ c'.executions = c.executions ∧
      c'.client.config = c.client.config ∧
      ∀ query, r = .ok query → query.params.isEmpty = false →
        c'.client.schemas.get? request.table =
          some (.ofColumns request.table (catalog request.table)) := by
  have hconn := Client.connects db c
  rw [Client.findsQuery, Action.runOn_bind] at hrun
  generalize (Client.connect db).runOn c = connected at hconn hrun
  obtain ⟨r₁, c₁⟩ := connected
  obtain ⟨hopened, hqueue₁⟩ := h.connects_eq law hconn
  dsimp only at hconn hopened hqueue₁
  subst hopened
  change (Client.findStatement db request).runOn c₁ = (r, c') at hrun
  have h₁ : c₁.UpToDate db catalog := connects law hconn h
  have hfind := Client.finds db request c₁
  rw [hrun] at hfind
  obtain ⟨hfound, hqueue, hschema⟩ := h₁.finds_eq law request hrun
  obtain ⟨connection, hclient₁⟩ := hconn.client_eq
  obtain ⟨schemas, stats, hclient⟩ := hfind.client_eq
  refine ⟨?_, hqueue.trans hqueue₁, (invariant law).finds hfind h₁,
    (hconn.spares.trans hfind.spares).executions_eq, ?_, hschema⟩
  · rw [hfound, hclient₁]
    rfl
  · rw [hclient, hclient₁]

/-- **A request comes to what its chain, the catalog and the session say.** -/
theorem executes_eq (law : db.Predictable catalog queue) (h : c.UpToDate db catalog)
    (hhonor : c.client.config.uuidWrites = .honor) (request : Request) :
    ComesTo db catalog c request ((Client.execute db request).runOn c).1
      ((Client.execute db request).runOn c).2 := by
  rw [Client.execute_eq_findsQuery, Action.runOn_bind]
  rcases hrun : (Client.findsQuery db request).runOn c with ⟨r, c₁⟩
  obtain ⟨hfound, hqueue, h₁, hexecutions, hconfig, hschema⟩ := h.findsQuery_eq law request hrun
  cases r with
  | error error =>
    have hbound : c.client.bound catalog request = .error error := by
      rw [Client.bound, ← hfound]
      rfl
    exact ⟨by rw [hbound]; rfl, by rw [hbound, hexecutions, List.append_nil]⟩
  | ok query =>
    -- The cells by the schema at hand are those by the catalog, whatever schema was kept before.
    have hcells : c₁.client.cells? request.table query.params =
        query.params.toCells (some (.ofColumns request.table (catalog request.table))) .honor
          c.client.uuids :=
      cells_eq (hconfig ▸ hhonor) (hschema query rfl) _
    have hbound : c.client.bound catalog request =
        (c₁.client.cells? request.table query.params).map fun cells => (query, cells) := by
      rw [Client.bound_of_found hfound.symm, hhonor, hcells]
    dsimp only
    rw [Action.runOn_bind, Client.runOn_bindCells]
    cases hresult : c₁.client.cells? request.table query.params with
    | error error =>
      rw [hresult] at hbound
      exact ⟨by rw [hbound]; rfl, by rw [hbound, hexecutions]; exact (List.append_nil _).symm⟩
    | ok cells =>
      rw [hresult] at hbound
      have hminted : (Client.mintedFor query.params.size c₁).UpToDate db catalog := { h₁ with }
      obtain ⟨houtcome, hmade⟩ := hminted.runs_eq law
        (Client.runs db (some request.operation) query.cql cells _)
      obtain ⟨hanswer, hexecuted⟩ := law.answer_eq hqueue query.cql cells
      constructor
      · rw [hbound]
        exact houtcome.trans hanswer
      · rw [hbound, ← hexecutions]
        exact hmade.trans (congrArg _ hexecuted)

end Conversation.UpToDate

/-! ## Columns that are missing -/

/-- Compiling knows nothing of schemas. -/
theorem Client.compile_ne_schemaLookup (c : Client Prepared) (request : Request)
    (name column : String) : c.compile request ≠ .error (.schemaLookup name column) := by
  rw [compile, Chain.error?]
  cases c.chain.fault with
  | some fault =>
    rintro ⟨⟩
  | none =>
    cases request with
    | select table limit columns | delete table limit =>
      rintro ⟨⟩
    | insert table payload | update table payload =>
      simp only [Option.map_none, Request.statement]
      split <;> rintro ⟨⟩

namespace Client

variable {c d : Client Prepared} {request : Request} {name column : String}

theorem compile_of_found {query : Query} (h : c.found catalog request = .ok query) :
    c.compile request = .ok query := by
  rw [found] at h
  split at h
  · split at h
    · cases h
    · split at h <;> cases h
      assumption
  · split at h
    · cases h
    · exact h

/-- The cells of a statement are those of its values by the columns of its own table. -/
theorem toCells_of_bound {query : Query} {cells : List Cell}
    (h : c.bound catalog request = .ok (query, cells)) :
    c.compile request = .ok query ∧
      query.params.toCells (some (.ofColumns request.table (catalog request.table)))
        c.config.uuidWrites c.uuids = .ok cells := by
  cases hfound : c.found catalog request with
  | error error =>
    rw [bound, hfound] at h
    cases h
  | ok found =>
    rw [bound_of_found hfound] at h
    cases hcells : found.params.toCells
        (some (.ofColumns request.table (catalog request.table))) c.config.uuidWrites c.uuids with
    | error error =>
      rw [hcells] at h
      cases h
    | ok others =>
      rw [hcells] at h
      cases h
      exact ⟨compile_of_found hfound, hcells⟩

/-- Where the catalog has no columns, only a statement without values is found. -/
theorem params_of_found {query : Query} (h : c.found catalog request = .ok query)
    (hempty : (catalog request.table).isEmpty = true) : query.params.isEmpty = true := by
  rw [found, hempty] at h
  split at h
  · split at h
    · cases h
    · split at h
      · rename_i hparams
        cases h
        simpa using hparams
      · cases h
  · rw [if_pos rfl] at h
    cases h

/-- Statements are found without looking at columns. -/
theorem found_ne_schemaLookup (c : Client Prepared) (request : Request) (name column : String) :
    c.found catalog request ≠ .error (.schemaLookup name column) := by
  have hcompile := c.compile_ne_schemaLookup request name column
  intro h
  rw [found] at h
  split at h
  · split at h
    · next hc =>
      cases h
      exact hcompile hc
    · split at h <;> cases h
  · split at h
    · cases h
    · exact hcompile h

/-- A statement with its values fails for want of a column only where the catalog has columns for
the table, and not this one. -/
theorem schemaLookup_of_bound
    (h : c.bound catalog request = .error (.schemaLookup name column)) :
    name = request.table ∧ (catalog name).isEmpty = false ∧
      column ∉ (catalog name).map Prod.fst := by
  cases hfound : c.found catalog request with
  | error error =>
    rw [bound, hfound] at h
    cases h
    exact absurd hfound (c.found_ne_schemaLookup request name column)
  | ok query =>
    rw [bound_of_found hfound] at h
    cases hcells : query.params.toCells
        (some (.ofColumns request.table (catalog request.table))) c.config.uuidWrites c.uuids with
    | ok cells =>
      rw [hcells] at h
      cases h
    | error error =>
      rw [hcells] at h
      cases h
      obtain ⟨hname, hcolumn⟩ := BindParams.schemaLookup_of_toCells hcells
      rw [Schema.table_ofColumns] at hname
      subst hname
      refine ⟨rfl, ?_, Schema.columnType?_ofColumns_eq_none hcolumn⟩
      -- Without columns, only a statement without values is found, and that has its cells.
      cases he : (catalog request.table).isEmpty with
      | false => rfl
      | true =>
        have hempty : query.params.params = [] := List.isEmpty_iff.mp (params_of_found hfound he)
        rw [BindParams.toCells, hempty] at hcells
        cases hcells

/-- The supply of identifiers plays no part where identifiers are honored. -/
theorem bound_congr (hchain : c.chain = d.chain) (hconfig : c.config = d.config)
    (hhonor : c.config.uuidWrites = .honor) :
    c.bound catalog request = d.bound catalog request := by
  have hcompile := compile_congr hchain.symm request
  have hcells (query : Query) (schema : Option Schema) :
      query.params.toCells schema c.config.uuidWrites c.uuids =
        query.params.toCells schema d.config.uuidWrites d.uuids := by
    rw [← hconfig, hhonor]
    exact query.params.toCells_honor schema _ _
  rw [bound, bound, found, found, hcompile]
  simp only [hcells]

end Client

theorem Backend.answer_ne_schemaLookup (db : Backend World Prepared) (w : World) (cql : String)
    (cells : List Cell) (name column : String) :
    db.answer w cql cells ≠ .error (.schemaLookup name column) := by
  rw [answer]
  cases (db.prepare cql w).1 with
  | error error =>
    obtain ⟨text, message, herror⟩ := (Client.wrapped_prepareError cql error).exists_eq
    show Except.error (Client.prepareError cql error) ≠ _
    rw [herror]
    rintro ⟨⟩
  | ok statement =>
    show (db.execute statement cells w).1.mapError _ ≠ _
    cases (db.execute statement cells w).1 with
    | error error =>
      obtain ⟨text, message, herror⟩ := (Client.wrapped_executionError cql error).exists_eq
      show Except.error (Client.executionError cql error) ≠ _
      rw [herror]
      rintro ⟨⟩
    | ok result => rintro ⟨⟩

/-- Rows that cannot be read do not fail for want of a column. -/
theorem Terminal.read_ne_schemaLookup {t : Terminal} (hread : t.ReadsByDecoding)
    {autoConvert : Bool} (result : ResultSet) (name column : String) :
    t.read autoConvert result ≠ .error (.schemaLookup name column) := by
  intro h
  obtain ⟨message, herror⟩ | ⟨column', message, herror⟩ := error_of_read hread h <;> cases herror

namespace Conversation.UpToDate

variable {c d : Conversation World Prepared}

/-- What an operation executes is its statement with its values, by the columns of its table. -/
theorem executions_carryOut (law : db.Predictable catalog queue) (h : c.UpToDate db catalog)
    (hhonor : c.client.config.uuidWrites = .honor) (t : Terminal) :
    ((t.carryOut db).calls c).filterMap Call.execution? =
      match c.client.bound catalog t.request with
      | .ok (query, cells) => db.executed c.world query.cql cells
      | .error _ => [] := by
  have hexecutions := (h.executes_eq law hhonor t.request).executions
  rw [Conversation.executions_of_calls (t.continues db c).calls_eq] at hexecutions
  rw [t.calls_act] at hexecutions
  exact List.append_cancel_left hexecutions

/-- An operation that fails for want of a column is one on a table that the catalog has columns for,
and not this one. -/
theorem schemaLookup_of_finish (law : db.Predictable catalog queue) (h : c.UpToDate db catalog)
    (hhonor : c.client.config.uuidWrites = .honor) {t : Terminal} (hread : t.ReadsByDecoding)
    {name column : String}
    (herror : ((t.carryOut db).runOn c).1 = .error (.schemaLookup name column)) :
    name = t.request.table ∧ (catalog name).isEmpty = false ∧
      column ∉ (catalog name).map Prod.fst := by
  have hexecutes := (h.executes_eq law hhonor t.request).outcome
  rw [t.runOn_carryOut_fst, hexecutes] at herror
  cases hbound : c.client.bound catalog t.request with
  | error error =>
    rw [hbound] at herror
    cases herror
    exact Client.schemaLookup_of_bound hbound
  | ok bound =>
    rw [hbound] at herror
    change (db.answer c.world bound.1.cql bound.2).bind _ = _ at herror
    cases hanswer : db.answer c.world bound.1.cql bound.2 with
    | error error =>
      rw [hanswer] at herror
      cases herror
      exact absurd hanswer (db.answer_ne_schemaLookup _ _ _ name column)
    | ok result =>
      rw [hanswer] at herror
      exact absurd herror (Terminal.read_ne_schemaLookup hread result name column)

/-- No other command fails for want of a column. -/
theorem schemaLookup_of_carryOut (law : db.Predictable catalog queue) (h : c.UpToDate db catalog)
    (hhonor : c.client.config.uuidWrites = .honor) {command : Command}
    (hread : command.ReadsByDecoding) {name column : String}
    (herror : ((command.carryOut db).runOn c).1 = .error (.schemaLookup name column)) :
    ∃ t, command = .finish t ∧ name = t.request.table ∧ (catalog name).isEmpty = false ∧
      column ∉ (catalog name).map Prod.fst := by
  cases command with
  | filter f | reset => cases herror
  | compile request =>
    rw [Command.runOn_compile] at herror
    exact absurd herror (c.client.compile_ne_schemaLookup request name column)
  | rawQuery cql =>
    obtain ⟨r, hquery, hr⟩ := Client.queries db cql c
    change ((Client.rawQuery db cql).runOn c).1 = _ at herror
    rw [herror] at hr
    cases hquery with
    | unconnected conn => cases (h.connects_eq law conn).1
    | @ran _ c₁ _ conn run =>
      cases r with
      | ok result => cases hr
      | error error =>
        cases hr
        cases run.isSessionError_eq
  | finish t => exact ⟨t, rfl, h.schemaLookup_of_finish law hhonor hread herror⟩

end Conversation.UpToDate

/-- **What was done before does not matter.** Over a database whose answers do not depend on the
past, two clients with the same settings and the same chain carry out an operation with the same
result and execute the same text with the same cells, whatever has become of them before. Values are
converted by the columns that the catalog has for the table of the operation: that is the schema at
hand when there are values, and a column is missing only if that table does not have it. So no error
gives the name that stands for a schema which is not there; the name is that of the table. -/
theorem Run.forgets_history (law : db.Predictable catalog queue) {history₁ history₂ : List Entry}
    {c d : Conversation World Prepared} (run₁ : Run db history₁ c) (run₂ : Run db history₂ d)
    (hconfig : c.client.config = d.client.config) (hhonor : c.client.config.uuidWrites = .honor)
    (hchain : c.client.chain = d.client.chain) (hqueue : queue c.world = queue d.world) :
    (∀ t : Terminal,
      ((t.carryOut db).runOn c).1 = ((t.carryOut db).runOn d).1 ∧
      ((t.carryOut db).calls c).filterMap Call.execution? =
        ((t.carryOut db).calls d).filterMap Call.execution? ∧
      (∀ query c', (Client.findsQuery db t.request).runOn c = (.ok query, c') →
        query.params.isEmpty = false → c'.client.schemas.get? t.request.table =
          some (.ofColumns t.request.table (catalog t.request.table))) ∧
      ∀ cql cells, (cql, cells) ∈ ((t.carryOut db).calls c).filterMap Call.execution? →
        ∃ query, c.client.compile t.request = .ok query ∧ query.cql = cql ∧
          query.params.toCells (some (.ofColumns t.request.table (catalog t.request.table)))
            .honor c.client.uuids = .ok cells) ∧
    ∀ command : Command, command.ReadsByDecoding → ∀ name column,
      ((command.carryOut db).runOn c).1 = .error (.schemaLookup name column) →
        ∃ t, command = .finish t ∧ name = t.request.table ∧ (catalog name).isEmpty = false ∧
          column ∉ (catalog name).map Prod.fst := by
  have h₁ := run₁.upToDate law
  have h₂ := run₂.upToDate law
  have hbound (request : Request) :
      c.client.bound catalog request = d.client.bound catalog request :=
    Client.bound_congr hchain hconfig hhonor
  -- Both histories are compared through what the operation comes to, which mentions neither.
  refine ⟨fun t => ⟨?_, ?_, ?_, ?_⟩, ?_⟩
  · rw [t.runOn_carryOut_fst, t.runOn_carryOut_fst, hconfig,
      (h₁.executes_eq law hhonor t.request).outcome,
      (h₂.executes_eq law (hconfig ▸ hhonor) t.request).outcome, hbound]
    congr 2
    funext bound
    exact (law.answer_eq hqueue bound.1.cql bound.2).1
  · rw [h₁.executions_carryOut law hhonor, h₂.executions_carryOut law (hconfig ▸ hhonor), hbound]
    cases d.client.bound catalog t.request with
    | error error => rfl
    | ok bound => exact (law.answer_eq hqueue bound.1.cql bound.2).2
  · exact fun query c' hrun => (h₁.findsQuery_eq law t.request hrun).2.2.2.2.2 query rfl
  · intro cql cells hmem
    rw [h₁.executions_carryOut law hhonor] at hmem
    cases hok : c.client.bound catalog t.request with
    | error error =>
      rw [hok] at hmem
      cases hmem
    | ok bound =>
      obtain ⟨hcompile, hcells⟩ := Client.toCells_of_bound hok
      rw [hok] at hmem
      change (cql, cells) ∈ db.executed c.world bound.1.cql bound.2 at hmem
      rw [hhonor] at hcells
      rw [Backend.executed] at hmem
      split at hmem
      · cases List.mem_singleton.mp hmem
        exact ⟨bound.1, hcompile, rfl, hcells⟩
      · cases hmem
  · exact fun command hread name column herror =>
      h₁.schemaLookup_of_carryOut law hhonor hread herror

/-- A client that has read another table before reads as a new one does. -/
theorem Run.forgets_history_get :
    let catalog (table : String) : List Column :=
      if table = "users" then [("id", .bigint)] else [("id", .varchar)]
    let db := Backend.queued catalog
    let read := Terminal.get "users" none []
    ∃ (history₁ history₂ : List Entry) (new used : Conversation (List ResultSet) String),
      Run db history₁ new ∧ Run db history₂ used ∧ new.client.schemas.current = none ∧
        used.client.schemas.current = some ⟨"logs", [("id", .varchar)]⟩ ∧
        ((read.carryOut db).calls used).filterMap Call.execution? =
          [("SELECT * FROM users WHERE  id = ?", [.bigint 7])] := by
  intro catalog db read
  let byId := Command.filter (.equal "id" (.int 7))
  have start : Run db [] { client := .new (Config.honorUuids {}) default, world := [] } :=
    .start (Config.honorUuids {}) default []
  have new := start.step byId
  have used := ((start.step byId).step (.finish (.get "logs" none []))).step byId
  refine ⟨_, _, _, _, new, used, ?_, ?_, ?_⟩
  · decide +kernel
  · decide +kernel
  · have hsame := (Run.forgets_history (Backend.predictable_queued catalog) used new
      (by decide +kernel) (by decide +kernel) (by decide +kernel) rfl).1 read
    rw [hsame.2.1]
    decide +kernel

end WideColumn
