import WideColumn.Proofs.Backend.Behaviour
import WideColumn.Proofs.Client.Run
import WideColumn.Proofs.Client.TwoRuns
import WideColumn.Proofs.Conversion.BoundCells
import WideColumn.Proofs.Statement.Veil

/-! # Values stay where they belong

Two clients that differ in nothing but the values of their conditions, with requests that differ in
nothing but the values that they bind. As long as the values have cells, and the session does not
answer by them, nobody can tell the requests apart but the session itself: the texts, the log, the
counts and the kept statements are the same. -/

namespace WideColumn

variable {World Prepared α : Type}

open WideColumn.Action (Alike)
open Conversation (Link)

/-! ## Covering up values -/

/-- An operation with its bound values covered up. -/
def Terminal.veiled : Terminal → Terminal
  | get table limit columns => get table limit columns
  | getOne table columns => getOne table columns
  | getOneStrict table columns => getOneStrict table columns
  | getAs reading table limit columns => getAs reading table limit columns
  | insert table payload => insert table payload.veiled
  | update table payload => update table payload.veiled
  | delete table limit => delete table limit

theorem Terminal.request_veiled (t : Terminal) : t.veiled.request = t.request.veiled := by
  cases t <;> rfl

/-- A call with its cells covered up. -/
def Call.veiled : Call Prepared → Call Prepared
  | connect outcome => connect outcome
  | columns table outcome => columns table outcome
  | prepare cql outcome => prepare cql outcome
  | execute cql statement cells outcome =>
    execute cql statement (cells.map fun _ => .null) outcome

/-- An event with the cells of a call covered up. A report is left as it is. -/
def Event.veiled : Event Prepared → Event Prepared
  | call c => call c.veiled
  | notice n => notice n

/-- What has been said, with cells covered up. -/
def Conversation.veiledEvents (c : Conversation World Prepared) : List (Event Prepared) :=
  c.events.map Event.veiled

/-- Reports are not covered up. -/
theorem Conversation.notices_of_veiledEvents {c d : Conversation World Prepared}
    (h : c.veiledEvents = d.veiledEvents) : c.notices = d.notices := by
  have hveiled (c : Conversation World Prepared) :
      c.notices = c.veiledEvents.filterMap Event.notice? := by
    rw [notices, veiledEvents, List.filterMap_map]
    congr 1
    funext event
    cases event <;> rfl
  rw [hveiled, hveiled, h]

/-! ## Conversations that look alike -/

/-- Two conversations that are the same once values and cells are covered up, wherever their
databases are. -/
structure LookAlike (c d : Conversation World Prepared) : Prop where
  client_eq : c.client.veiled = d.client.veiled
  events_eq : c.veiledEvents = d.veiledEvents

namespace LookAlike

variable {c d : Conversation World Prepared}

/-- Clients agree in everything that is left of them. -/
theorem field_eq (h : LookAlike c d) (f : Client Prepared → α) (hf : ∀ a, f a.veiled = f a) :
    f c.client = f d.client := by
  rw [← hf, h.client_eq, hf]

/-- A change that leaves conditions alone, or drops them. -/
theorem change (h : LookAlike c d) (f : Client Prepared → Client Prepared)
    (hf : ∀ a, (f a).veiled = f a.veiled) (w w' : World) :
    LookAlike ⟨f c.client, w, c.events⟩ ⟨f d.client, w', d.events⟩ where
  client_eq := by rw [hf, h.client_eq, ← hf]
  events_eq := h.events_eq

theorem say (h : LookAlike c d) {events events' : List (Event Prepared)}
    (hevents : events.map Event.veiled = events'.map Event.veiled) (w w' : World) :
    LookAlike ⟨c.client, w, c.events ++ events⟩ ⟨d.client, w', d.events ++ events'⟩ where
  client_eq := h.client_eq
  events_eq := by
    have hsaid := h.events_eq
    unfold Conversation.veiledEvents at hsaid ⊢
    rw [List.map_append, List.map_append, hsaid, hevents]

theorem counts (f : Stats → Stats) :
    Alike (LookAlike : Link World Prepared) LookAlike Eq (Client.count f) (Client.count f) :=
  fun _ _ h => ⟨.ok rfl, h.change (fun a => { a with stats := f a.stats }) (fun _ => rfl) _ _⟩

theorem reports (notice : Notice) :
    Alike (LookAlike : Link World Prepared) LookAlike Eq (Action.report notice)
      (Action.report notice) :=
  fun _ _ h => ⟨.ok rfl, h.say rfl _ _⟩

end LookAlike

/-- Two conversations that look alike, with their databases in the same state. -/
def InStep (c d : Conversation World Prepared) : Prop := LookAlike c d ∧ c.world = d.world

namespace InStep

variable {db : Backend World Prepared} {c d : Conversation World Prepared}

theorem changes (f : Client Prepared → Client Prepared)
    (hf : ∀ a, (f a).veiled = f a.veiled) :
    Alike (InStep : Link World Prepared) InStep Eq (Action.modifyClient f)
      (Action.modifyClient f) :=
  fun _ _ h => ⟨.ok rfl, h.1.change f hf _ _, h.2⟩

theorem reports (notice : Notice) :
    Alike (InStep : Link World Prepared) InStep Eq (Action.report notice)
      (Action.report notice) :=
  fun _ _ h => ⟨.ok rfl, h.1.say rfl _ _, h.2⟩

/-- A database answers the same call in the same state alike. -/
theorem calls {step : World → Except Error α × World} {asCall : Except Error α → Call Prepared} :
    Alike InStep InStep Eq (Action.call step asCall) (Action.call step asCall) := by
  rintro c d ⟨h, hworld⟩
  rw [Action.runOn_call, Action.runOn_call, hworld]
  exact ⟨.ok rfl, h.say rfl _ _, rfl⟩

theorem likeness (db : Backend World Prepared) : Likeness db InStep where
  connection_eq _ _ h := h.1.field_eq Client.connection fun _ => rfl
  schemas_eq _ _ h := h.1.field_eq Client.schemas fun _ => rfl
  connect := calls
  columns _ := calls
  report := reports
  setConnection _ := changes _ fun _ => rfl
  countRefresh := changes _ fun _ => rfl
  keepSchema _ := changes _ fun _ => rfl

/-- Preparing does not look at values. -/
theorem prepares (db : Backend World Prepared) (cql : String) :
    Alike InStep InStep Eq (Client.prepare db cql) (Client.prepare db cql) := by
  have hcounts (f : Stats → Stats) : Alike (InStep : Link World Prepared) InStep Eq
      (Client.count f) (Client.count f) := changes _ fun _ => rfl
  have hkeeps (f : StatementCache Prepared → StatementCache Prepared) :
      Alike (InStep : Link World Prepared) InStep Eq
        (Action.modifyClient fun c => { c with statements := c.statements.map f })
        (Action.modifyClient fun c => { c with statements := c.statements.map f }) :=
    changes _ fun _ => rfl
  have hclient : Alike (InStep : Link World Prepared) InStep
      (fun a b => a.statements = b.statements) Action.client Action.client :=
    .client fun _ _ h => h.1.field_eq Client.statements fun _ => rfl
  unfold Client.prepare
  refine hclient.andThen fun a b hab => ?_
  rw [hab]
  cases b.statements.bind (·.get? cql) with
  | some statement =>
    refine (hkeeps fun cache => cache.touch cql).andThen fun _ _ _ => ?_
    exact (hcounts _).andThen fun _ _ _ => .pure rfl
  | none =>
    refine (hcounts _).andThen fun _ _ _ => calls.andThen ?_
    rintro outcome _ rfl
    cases outcome with
    | error error =>
      exact (hcounts _).andThen fun _ _ _ => (reports _).andThen fun _ _ _ => .throw _
    | ok statement =>
      refine hclient.andThen fun a b hab => ?_
      rw [hab]
      split
      · refine (hcounts _).andThen fun _ _ _ => ?_
        exact (hkeeps fun cache => cache.insert cql statement).andThen fun _ _ _ => .pure rfl
      · exact .pure rfl

/-- Running a statement with other cells, of which there are as many, looks alike to everybody but
the session, whose state may tell them apart afterwards. -/
theorem runs (hignores : db.IgnoresCells) (operation : Option Operation) (cql : String)
    {cells cells' : List Cell} (hlength : cells.length = cells'.length) :
    Alike InStep LookAlike Eq (Client.runStatement db operation cql cells)
      (Client.runStatement db operation cql cells') := by
  rintro c d ⟨h, hworld⟩
  have hannounced : InStep (Client.announced operation cql cells c)
      (Client.announced operation cql cells' d) := by
    have hlimit : c.client.config.logLimit = d.client.config.logLimit :=
      h.field_eq (·.config.logLimit) fun _ => rfl
    rw [Client.announced, Client.announced, hlimit, hlength]
    have hcount : LookAlike ⟨{ c.client with stats := c.client.stats.countStatement operation },
        c.world, c.events⟩ ⟨{ d.client with stats := d.client.stats.countStatement operation },
        d.world, d.events⟩ :=
      h.change (fun a => { a with stats := a.stats.countStatement operation }) (fun _ => rfl) _ _
    exact ⟨hcount.say rfl _ _, hworld⟩
  rw [Client.runOn_runStatement, Client.runOn_runStatement]
  refine (prepares db cql).bind ?_ (fun _ _ h => h.1) hannounced
  rintro statement _ rfl
  have hexecute : Alike InStep LookAlike Eq
      (Action.call (db.execute statement cells) (.execute cql statement cells))
      (Action.call (db.execute statement cells') (.execute cql statement cells')) := by
    rintro c d ⟨h, hworld⟩
    have houtcome := hignores statement cells cells' d.world hlength
    rw [Action.runOn_call, Action.runOn_call, hworld, houtcome]
    refine ⟨.ok rfl, h.say ?_ _ _⟩
    have hcells : (cells.map fun _ => Cell.null) = cells'.map fun _ => Cell.null := by
      rw [List.map_const', List.map_const', hlength]
    simp [Event.veiled, Call.veiled, hcells]
  refine hexecute.bind ?_ fun _ _ h => h
  rintro outcome _ rfl
  -- No call comes after the execution, so the states of the session do not matter any more.
  cases outcome with
  | ok result => exact .pure rfl
  | error error =>
    refine (LookAlike.counts _).andThen fun _ _ _ => ?_
    exact (LookAlike.reports _).andThen fun _ _ _ => .throw _

/-- What requests with covered up values have in common, their statements have too. -/
theorem compiles (h : InStep c d) {request request' : Request}
    (hrequest : request.veiled = request'.veiled) :
    (c.client.compile request).map Query.veiled = (d.client.compile request').map Query.veiled := by
  rw [← Client.compile_veiled, ← Client.compile_veiled, hrequest, h.1.client_eq]

end InStep

/-! ## Requests -/

/-- Whether the values of a request have cells, if it comes as far as its values. -/
def Request.converts (db : Backend World Prepared) (request : Request)
    (c : Conversation World Prepared) : Bool :=
  match (Client.findsQuery db request).runOn c with
  | (.ok query, c') => (c'.client.cells? request.table query.params).isOk
  | (.error _, _) => true

theorem Request.cells_of_converts {db : Backend World Prepared} {request : Request}
    {c c' : Conversation World Prepared} {query : Query} (h : request.converts db c = true)
    (hquery : (Client.findsQuery db request).runOn c = (.ok query, c')) :
    ∃ cells, c'.client.cells? request.table query.params = .ok cells := by
  rw [converts, hquery] at h
  cases hcells : c'.client.cells? request.table query.params with
  | error error =>
    simp only [hcells] at h
    cases h
  | ok cells => exact ⟨cells, rfl⟩

namespace InStep

variable {db : Backend World Prepared} {c d : Conversation World Prepared}
  {request request' : Request}

theorem findsQuery (hrequest : request.veiled = request'.veiled) :
    Alike (InStep : Link World Prepared) InStep (fun query query' => query.veiled = query'.veiled)
      (Client.findsQuery db request) (Client.findsQuery db request') := by
  refine (likeness db).opens.andThen fun _ _ _ => (likeness db).finds ?_ ?_ ?_ ?_
  · rw [← request.table_veiled, hrequest, request'.table_veiled]
  · rw [← request.operation_veiled, hrequest, request'.operation_veiled]
  · exact fun c d h => .of_map_eq (h.compiles hrequest)
  · intro query query' hquery
    rw [← query.params.isEmpty_veiled, ← query'.params.isEmpty_veiled]
    exact congrArg (·.params.isEmpty) hquery

theorem executes (hignores : db.IgnoresCells) (hrequest : request.veiled = request'.veiled)
    (h : InStep c d) (hc : request.converts db c = true)
    (hd : request'.converts db d = true) :
    ((Client.execute db request).runOn c).1 = ((Client.execute db request').runOn d).1 ∧
      LookAlike ((Client.execute db request).runOn c).2
        ((Client.execute db request').runOn d).2 := by
  have hoperation : request.operation = request'.operation := by
    rw [← request.operation_veiled, hrequest, request'.operation_veiled]
  obtain ⟨houtcome, hstep⟩ := findsQuery hrequest h
  rw [Client.execute_eq_findsQuery, Client.execute_eq_findsQuery, Action.runOn_bind,
    Action.runOn_bind]
  rcases hx : (Client.findsQuery db request).runOn c with ⟨r, c'⟩
  rcases hy : (Client.findsQuery db request').runOn d with ⟨r', d'⟩
  rw [hx, hy] at houtcome hstep
  cases houtcome with
  | error error => exact ⟨rfl, hstep.1⟩
  | @ok query query' hquery =>
    -- The values differ, but there are as many of them, and that is all that is said of them.
    obtain ⟨cells, hcells⟩ := request.cells_of_converts hc hx
    obtain ⟨cells', hcells'⟩ := request'.cells_of_converts hd hy
    obtain ⟨hcql, -, hsize⟩ := Query.eq_of_veiled hquery
    have hlength : cells.length = cells'.length := by
      rw [BindParams.length_of_toCells hcells, BindParams.length_of_toCells hcells', hsize]
    have hminted : InStep (Client.mintedFor query.params.size c')
        (Client.mintedFor query'.params.size d') := by
      rw [hsize]
      exact ⟨hstep.1.change (fun a => { a with minted := a.minted + query'.params.size })
        (fun _ => rfl) _ _, hstep.2⟩
    obtain ⟨hresult, halike⟩ := runs hignores (some request.operation) query.cql hlength hminted
    simp only [Action.runOn_bind, Client.runOn_bindCells, hcells, hcells']
    rw [← hoperation, ← hcql]
    exact ⟨hresult.eq, halike⟩

end InStep

theorem LookAlike.settled {c d : Conversation World Prepared} (h : LookAlike c d)
    (r : Except Error α) : LookAlike (Client.settled r c) (Client.settled r d) := by
  have hreset : LookAlike ⟨c.client.reset, c.world, c.events⟩ ⟨d.client.reset, d.world, d.events⟩ :=
    h.change Client.reset (fun _ => rfl) _ _
  cases r with
  | ok result => exact hreset
  | error error =>
    simp only [Client.settled]
    split
    · exact h.say rfl _ _
    · exact hreset

/-- **Nobody but the session sees values.** Two clients that are the same but for the values of
their conditions are told to do the same, but for the values that are bound. If the values have
cells in both cases, and the session does not answer by them, then the texts and the keys are the
same, and so are the statements that are prepared and executed, the reports, the counts and the
statements that are kept. -/
theorem Terminal.lookAlike_act {db : Backend World Prepared} (hignores : db.IgnoresCells)
    {c d : Conversation World Prepared} (hclient : c.client.veiled = d.client.veiled)
    (hevents : c.veiledEvents = d.veiledEvents) (hworld : c.world = d.world) {t t' : Terminal}
    (hveiled : t.veiled = t'.veiled) (hc : t.request.converts db c = true)
    (hd : t'.request.converts db d = true) :
    let left := ((t.act db).runOn c).2
    let right := ((t'.act db).runOn d).2
    ((c.client.compile t.request).map fun q => (q.cql, q.params.keys)) =
        (d.client.compile t'.request).map (fun q => (q.cql, q.params.keys)) ∧
      left.veiledEvents = right.veiledEvents ∧
      left.notices = right.notices ∧
      left.client.stats = right.client.stats ∧
      left.client.statements = right.client.statements := by
  intro left right
  have hstep : InStep c d := ⟨⟨hclient, hevents⟩, hworld⟩
  have hrequest : t.request.veiled = t'.request.veiled := by
    rw [← t.request_veiled, hveiled, t'.request_veiled]
  obtain ⟨houtcome, halike⟩ := InStep.executes hignores hrequest hstep hc hd
  have hend : LookAlike left right := by
    show LookAlike ((t.act db).runOn c).2 ((t'.act db).runOn d).2
    rw [t.runOn_act_snd, t'.runOn_act_snd, Client.runOn_perform, Client.runOn_perform, houtcome]
    exact halike.settled _
  refine ⟨?_, hend.events_eq, Conversation.notices_of_veiledEvents hend.events_eq,
    hend.field_eq Client.stats fun _ => rfl, hend.field_eq Client.statements fun _ => rfl⟩
  refine (Outcomes.of_map_eq (hstep.compiles hrequest)).map_eq fun query query' hquery => ?_
  obtain ⟨hcql, hkeys, -⟩ := Query.eq_of_veiled hquery
  rw [hcql, hkeys]

/-- Other values are written under another condition, and the log is the same. -/
theorem Terminal.lookAlike_act_update :
    let c₀ := Conversation.fresh {} { tables := [("users", [("id", .int), ("name", .varchar)])] }
    let c := { c₀ with client := c₀.client.whereEqual "id" (.int 7) }
    let d := { c₀ with client := c₀.client.whereEqual "id" (.int 8) }
    let t := Terminal.update "users" (.set .empty "name" (.value (.text "Ann")))
    let t' := Terminal.update "users" (.set .empty "name" (.value (.text "Bob")))
    ((t.act Memory.backend).runOn c).2.notices = ((t'.act Memory.backend).runOn d).2.notices ∧
      ((t.act Memory.backend).runOn c).2.executions ≠
        ((t'.act Memory.backend).runOn d).2.executions := by
  intro c₀ c d t t'
  have hveiled : t.veiled = t'.veiled := rfl
  obtain ⟨-, -, hnotices, -⟩ := Terminal.lookAlike_act Backend.ignoresCells_memory
    (show c.client.veiled = d.client.veiled from rfl) rfl rfl hveiled (by decide +kernel)
    (by decide +kernel)
  refine ⟨hnotices, ?_⟩
  decide +kernel

end WideColumn
