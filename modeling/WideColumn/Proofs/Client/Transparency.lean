import Mathlib.Data.List.Basic
import WideColumn.Proofs.Backend.Behaviour
import WideColumn.Proofs.Client.KeptStatements
import WideColumn.Proofs.Client.Failures
import WideColumn.Proofs.Client.Scripts
import WideColumn.Proofs.Client.TwoRuns
import WideColumn.Proofs.Conversion.Minting

/-! # Keeping statements goes unnoticed

A client that keeps prepared statements next to one that has every statement prepared anew. Whatever
is kept, both say and return the same, as long as the session stands by the statements that it has
once prepared: only the calls for statements and the counts of them differ. -/

namespace WideColumn

variable {World Prepared α : Type}

open WideColumn.Action (Alike)

/-! ## What the cache has no part in -/

/-- The settings apart from those for keeping statements. -/
def Config.apartFromCache (config : Config) : Config :=
  { config with cacheEnabled := false, cacheCapacity := 0 }

/-- The counts apart from those of kept statements and of attempts to prepare. -/
def Stats.apartFromCache (stats : Stats) : Stats :=
  { stats with cacheHits := 0, cacheMisses := 0, prepares := 0 }

namespace Stats

variable (stats : Stats)

@[simp] theorem apartFromCache_countHit :
    stats.countHit.apartFromCache = stats.apartFromCache := rfl

@[simp] theorem apartFromCache_countMiss :
    stats.countMiss.apartFromCache = stats.apartFromCache := rfl

@[simp] theorem apartFromCache_countPrepare :
    stats.countPrepare.apartFromCache = stats.apartFromCache := rfl

@[simp] theorem apartFromCache_countFailure :
    stats.countFailure.apartFromCache = stats.apartFromCache.countFailure := rfl

@[simp] theorem apartFromCache_countRefresh :
    stats.countRefresh.apartFromCache = stats.apartFromCache.countRefresh := rfl

@[simp] theorem apartFromCache_countStatement (operation : Option Operation) :
    (stats.countStatement operation).apartFromCache =
      stats.apartFromCache.countStatement operation := by
  rcases operation with _ | _ | _ | _ | _ <;> rfl

end Stats

/-- Whether an event is a call for a statement to be prepared. -/
def Event.isPrepare (event : Event Prepared) : Bool := event.call?.any Call.isPrepare

/-- What has been said besides having statements prepared, the earliest first. -/
def Conversation.said (c : Conversation World Prepared) : List (Event Prepared) :=
  c.events.filter fun event => !event.isPrepare

@[simp] theorem Conversation.said_mk (client : Client Prepared) (world : World)
    (c : Conversation World Prepared) (events : List (Event Prepared)) :
    said ⟨client, world, c.events ++ events⟩ =
      c.said ++ events.filter fun event => !event.isPrepare :=
  List.filter_append _ _

/-- What has been executed has been said. -/
theorem Conversation.executions_of_said {c d : Conversation World Prepared} (h : c.said = d.said) :
    c.executions = d.executions := by
  have hsaid (c : Conversation World Prepared) :
      c.executions = c.said.filterMap fun event => event.call?.bind Call.execution? := by
    rw [executions, calls, List.filterMap_filterMap, said, List.filterMap_filter]
    refine List.filterMap_congr fun event _ => ?_
    rcases event with (_ | _ | _ | _) | _ <;> rfl
  rw [hsaid, hsaid, h]

/-- What has been reported has been said. -/
theorem Conversation.notices_of_said {c d : Conversation World Prepared} (h : c.said = d.said) :
    c.notices = d.notices := by
  have hsaid (c : Conversation World Prepared) :
      c.notices = c.said.filterMap Event.notice? := by
    rw [notices, said, List.filterMap_filter]
    refine List.filterMap_congr fun event _ => ?_
    rcases event with (_ | _ | _ | _) | _ <;> rfl
  rw [hsaid, hsaid, h]

/-- Keeping a statement changes nothing else but what is counted of that. -/
theorem Client.keepStatement_eq (c : Client Prepared) (cql : String) (statement : Prepared) :
    ∃ stats, c.keepStatement cql statement =
        { c with statements := (c.keepStatement cql statement).statements, stats } ∧
      stats.apartFromCache = c.stats.apartFromCache := by
  cases hs : c.statements with
  | none => exact ⟨c.stats.countPrepare, by simp [keepStatement, hs], by simp⟩
  | some cache => exact ⟨c.stats.countPrepare.countMiss, by simp [keepStatement, hs], by simp⟩

/-! ## A client that keeps statements and one that does not -/

/-- A conversation with a client that may keep statements, and the same conversation with a client
that keeps none. What the first one keeps has been prepared for the second one. -/
structure Twins (db : Backend World Prepared) (c d : Conversation World Prepared) : Prop where
  config_eq : c.client.config.apartFromCache = d.client.config.apartFromCache
  honor : d.client.config.uuidWrites = .honor
  connection_eq : c.client.connection = d.client.connection
  schemas_eq : c.client.schemas = d.client.schemas
  chain_eq : c.client.chain = d.client.chain
  stats_eq : c.client.stats.apartFromCache = d.client.stats.apartFromCache
  said_eq : c.said = d.said
  worlds : db.Indistinguishable c.world d.world
  uncached : d.client.statements = none
  kept : ∀ cache, c.client.statements = some cache → ∀ entry ∈ cache.entries,
    .prepare entry.1 (.ok entry.2) ∈ d.calls

/-- Whether the session would prepare a text as it did before. -/
def Conversation.Steady (db : Backend World Prepared) (cql : String)
    (c : Conversation World Prepared) : Prop :=
  ∀ statement, .prepare cql (.ok statement) ∈ c.calls → (db.prepare cql c.world).1 = .ok statement

namespace Twins

variable {db : Backend World Prepared} {c d : Conversation World Prepared}

/-- The settings that have nothing to do with the cache are the same. -/
theorem setting_eq (h : Twins db c d) (f : Config → α)
    (hf : ∀ config, f config.apartFromCache = f config) :
    f c.client.config = f d.client.config := by
  rw [← hf, h.config_eq, hf]

/-- After calls and reports that are the same for both. -/
theorem say (h : Twins db c d) {w w' : World} (hw : db.Indistinguishable w w')
    (events : List (Event Prepared)) :
    Twins db ⟨c.client, w, c.events ++ events⟩ ⟨d.client, w', d.events ++ events⟩ :=
  { h with
    said_eq := by rw [Conversation.said_mk, Conversation.said_mk, h.said_eq]
    worlds := hw
    kept := by
      intro cache hcache entry hentry
      rw [Conversation.calls_append]
      exact List.mem_append_left _ (h.kept cache hcache entry hentry) }

/-- Counts may differ in what has to do with the cache. -/
theorem count (h : Twins db c d) (stats stats' : Stats)
    (hstats : stats.apartFromCache = stats'.apartFromCache) :
    Twins db { c with client := { c.client with stats } }
      { d with client := { d.client with stats := stats' } } :=
  { h with stats_eq := hstats }

/-- The second client asks for a statement that the first one has kept. -/
theorem again (h : Twins db c d) {cql : String} (outcome : Except Error Prepared) {w : World}
    (hw : db.Indistinguishable c.world w) :
    Twins db c { d with world := w, events := d.events ++ [.call (.prepare cql outcome)] } :=
  { h with
    said_eq := by
      rw [Conversation.said_mk, h.said_eq]
      exact (List.append_nil _).symm
    worlds := hw
    kept := by
      intro cache hcache entry hentry
      rw [Conversation.calls_append]
      exact List.mem_append_left _ (h.kept cache hcache entry hentry) }

/-- The first client may keep other statements, if they have been prepared for the second one. -/
theorem keep (h : Twins db c d) (statements : Option (StatementCache Prepared))
    (hkept : ∀ cache, statements = some cache → ∀ entry ∈ cache.entries,
      .prepare entry.1 (.ok entry.2) ∈ d.calls) :
    Twins db { c with client := { c.client with statements } } d :=
  { h with kept := hkept }

theorem likeness (db : Backend World Prepared) : Likeness db (Twins db) where
  connection_eq _ _ h := h.connection_eq
  schemas_eq _ _ h := h.schemas_eq
  connect := by
    intro c d h
    obtain ⟨houtcome, hworld⟩ := (Backend.Indistinguishable.bisimulation db).connect h.worlds
    refine ⟨.ok houtcome, ?_⟩
    rw [Action.runOn_call, Action.runOn_call, houtcome]
    exact h.say hworld _
  columns := by
    intro table c d h
    obtain ⟨houtcome, hworld⟩ := (Backend.Indistinguishable.bisimulation db).columns table h.worlds
    refine ⟨.ok houtcome, ?_⟩
    rw [Action.runOn_call, Action.runOn_call, houtcome]
    exact h.say hworld _
  report := fun notice c d h => ⟨.ok rfl, h.say h.worlds [.notice notice]⟩
  setConnection := fun connection c d h => ⟨.ok rfl, { h with connection_eq := rfl }⟩
  countRefresh := fun c d h => ⟨.ok rfl, h.count _ _ (by simp [h.stats_eq])⟩
  keepSchema := fun schema c d h =>
    ⟨.ok rfl, { h with schemas_eq := congrArg (·.replace schema) h.schemas_eq }⟩

/-- A client that keeps no statements only counts the attempt. -/
theorem keepStatement_eq (h : Twins db c d) (cql : String) (statement : Prepared) :
    d.client.keepStatement cql statement =
      { d.client with stats := d.client.stats.countPrepare } := by
  simp only [Client.keepStatement, h.uncached]

/-- The first client has kept the statement that the second one has prepared anew. -/
theorem takeKept (hquiet : db.PreparesUnnoticed) (h : Twins db c d) {cql : String}
    {cache : StatementCache Prepared} (hcache : c.client.statements = some cache)
    {statement : Prepared} {world : World} (hw : db.prepare cql d.world = (.ok statement, world)) :
    Twins db
      { c with
        client :=
          { c.client with
            statements := some (cache.touch cql), stats := c.client.stats.countHit } }
      { client := d.client.keepStatement cql statement, world
        events := d.events ++ [.call (.prepare cql (.ok statement))] } := by
  have hunnoticed := hquiet cql d.world statement (by rw [hw])
  rw [hw] at hunnoticed
  have hcounts := h.count c.client.stats.countHit d.client.stats.countPrepare
    (by simp [h.stats_eq])
  have hkept : ∀ cache', some (cache.touch cql) = some cache' → ∀ entry ∈ cache'.entries,
      .prepare entry.1 (.ok entry.2) ∈ d.calls := by
    rintro _ ⟨⟩ entry hentry
    rw [StatementCache.entries_touch] at hentry
    exact h.kept cache hcache entry hentry
  rw [h.keepStatement_eq]
  exact (hcounts.keep _ hkept).again (.ok statement) (h.worlds.trans hunnoticed.symm)

/-- Both clients have the statement prepared, and the first one may keep it. -/
theorem takePrepared (h : Twins db c d) {cql : String} {statement : Prepared}
    {world world' : World} (hworlds : db.Indistinguishable world world') :
    Twins db
      { client := c.client.keepStatement cql statement, world
        events := c.events ++ [.call (.prepare cql (.ok statement))] }
      { client := d.client.keepStatement cql statement, world := world'
        events := d.events ++ [.call (.prepare cql (.ok statement))] } := by
  obtain ⟨stats, hclient, hstats⟩ := c.client.keepStatement_eq cql statement
  have hcounts := h.count stats d.client.stats.countPrepare (by simp [hstats, h.stats_eq])
  rw [h.keepStatement_eq, hclient]
  refine (hcounts.say hworlds [.call (.prepare cql (.ok statement))]).keep _ ?_
  intro cache hcache entry hentry
  rw [Conversation.calls_append]
  rcases Client.mem_of_mem_keepStatement hcache hentry with ⟨before, hbefore, hmem⟩ | rfl
  · exact List.mem_append_left _ (h.kept before hbefore entry hmem)
  · exact List.mem_append_right _ (List.mem_singleton_self _)

/-- Making a statement anew changes nothing else than what is kept and how often that was done. -/
theorem prepares (hquiet : db.PreparesUnnoticed) (cql : String) :
    Alike (fun c d => Twins db c d ∧ d.Steady db cql) (Twins db) Eq
      (Client.prepare db cql) (Client.prepare db cql) := by
  rintro c d ⟨h, hsteady⟩
  have hagain {cache : StatementCache Prepared} {statement : Prepared}
      (hcache : c.client.statements = some cache) (hget : cache.get? cql = some statement) :
      (db.prepare cql d.world).1 = .ok statement :=
    hsteady statement (h.kept cache hcache _ (StatementCache.mem_of_get? hget))
  obtain ⟨houtcome, hworld⟩ := (Backend.Indistinguishable.bisimulation db).prepare cql h.worlds
  have hc := Client.prepares db cql c
  have hd := Client.prepares db cql d
  generalize (Client.prepare db cql).runOn c = left at hc ⊢
  generalize (Client.prepare db cql).runOn d = right at hd ⊢
  obtain ⟨r, c'⟩ := left
  obtain ⟨r', d'⟩ := right
  -- The second client asks the session; what the first one does then is what the answer allows.
  cases hd with
  | kept hcache hget => cases h.uncached.symm.trans hcache
  | refused hget' hw' =>
    rw [hw'] at hagain houtcome hworld
    cases hc with
    | kept hcache hget => cases hagain hcache hget
    | refused hget hw =>
      rw [hw] at houtcome hworld
      cases houtcome
      exact ⟨.error _, (h.count _ _ (by simp [h.stats_eq])).say hworld _⟩
    | prepared hget hw =>
      rw [hw] at houtcome
      cases houtcome
  | prepared hget' hw' =>
    cases hc with
    | kept hcache hget =>
      have hsame := hagain hcache hget
      rw [hw'] at hsame
      cases hsame
      exact ⟨.ok rfl, h.takeKept hquiet hcache hw'⟩
    | refused hget hw =>
      rw [hw, hw'] at houtcome
      cases houtcome
    | prepared hget hw =>
      rw [hw, hw'] at houtcome hworld
      cases houtcome
      exact ⟨.ok rfl, h.takePrepared hworld⟩

theorem runs (hquiet : db.PreparesUnnoticed) (operation : Option Operation) (cql : String)
    (cells : List Cell) :
    Alike (fun c d => Twins db c d ∧ d.Steady db cql) (Twins db) Eq
      (Client.runStatement db operation cql cells)
      (Client.runStatement db operation cql cells) := by
  rintro c d ⟨h, hsteady⟩
  have hlimit : c.client.config.logLimit = d.client.config.logLimit :=
    h.setting_eq Config.logLimit fun _ => rfl
  have hannounced : Twins db (Client.announced operation cql cells c)
      (Client.announced operation cql cells d) := by
    rw [Client.announced, Client.announced, hlimit]
    exact (h.count _ _ (by simp [h.stats_eq])).say h.worlds _
  have hsteady' : (Client.announced operation cql cells d).Steady db cql := by
    intro statement hcall
    exact hsteady statement (by simpa [Client.announced] using hcall)
  rw [Client.runOn_runStatement, Client.runOn_runStatement]
  refine (prepares hquiet cql).bind ?_ (fun _ _ h => h) ⟨hannounced, hsteady'⟩
  rintro statement _ rfl
  have hexecute : Alike (Twins db) (Twins db) Eq
      (Action.call (db.execute statement cells) (.execute cql statement cells))
      (Action.call (db.execute statement cells) (.execute cql statement cells)) := by
    intro c d h
    obtain ⟨houtcome, hworld⟩ :=
      (Backend.Indistinguishable.bisimulation db).execute statement cells h.worlds
    refine ⟨.ok houtcome, ?_⟩
    rw [Action.runOn_call, Action.runOn_call, houtcome]
    exact h.say hworld _
  refine hexecute.andThen ?_
  rintro outcome _ rfl
  cases outcome with
  | ok result => exact .pure rfl
  | error error =>
    have hfailure : Alike (Twins db) (Twins db) Eq (Client.count .countFailure)
        (Client.count .countFailure) :=
      fun c d h => ⟨.ok rfl, h.count _ _ (by simp [h.stats_eq])⟩
    exact hfailure.andThen fun _ _ _ => ((likeness db).report _).andThen fun _ _ _ => .throw _

end Twins

/-! ## Requests and commands -/

/-- The text that a call has prepared, and what came of it. -/
def Call.preparation? : Call Prepared → Option (String × Except Error Prepared)
  | connect _ | columns _ _ | execute _ _ _ _ => none
  | prepare cql outcome => some (cql, outcome)

/-- Whether the session has stood by the statements that it prepared: a text that was prepared once
never failed later and never became another statement. -/
def Conversation.StoodBy (c : Conversation World Prepared) : Prop :=
  (c.calls.filterMap Call.preparation?).Pairwise fun earlier later =>
    earlier.1 = later.1 → earlier.2.isOk = true → later.2 = earlier.2

instance [DecidableEq Prepared] (c : Conversation World Prepared) : Decidable c.StoodBy :=
  inferInstanceAs (Decidable (List.Pairwise _ _))

theorem Conversation.StoodBy.of_calls {c c' : Conversation World Prepared} (h : c'.StoodBy)
    (hcalls : c.calls <+: c'.calls) : c.StoodBy :=
  h.sublist (hcalls.sublist.filterMap _)

/-- A client that keeps no statements has each one prepared anew. -/
theorem Client.Runs.calls_of_uncached {db : Backend World Prepared} {operation : Option Operation}
    {cql : String} {cells : List Cell} {r : Except Error ResultSet}
    {d d' : Conversation World Prepared} (h : Client.Runs db operation cql cells d r d')
    (huncached : d.client.statements = none) :
    d.calls ++ [.prepare cql (db.prepare cql d.world).1] <+: d'.calls := by
  have hprepares {r : Except Error Prepared} {d₁ : Conversation World Prepared}
      (prep : Client.Prepares db cql (announced operation cql cells d) r d₁) :
      d₁.calls = d.calls ++ [.prepare cql (db.prepare cql d.world).1] := by
    have hannounced : (announced operation cql cells d).calls = d.calls := by simp [announced]
    cases prep with
    | kept hcache hget => cases huncached.symm.trans hcache
    | refused hget hw | prepared hget hw =>
      change db.prepare cql d.world = _ at hw
      rw [Conversation.calls_append, hannounced, hw]
      rfl
  cases h with
  | unprepared prep => exact ⟨[], by rw [hprepares prep, List.append_nil]⟩
  | failed prep hw | ran prep hw =>
    rw [Conversation.calls_append, hprepares prep]
    exact List.prefix_append _ _

namespace Twins

variable {db : Backend World Prepared} {c d : Conversation World Prepared}

/-- What the session has stood by in the end, it stands by when a statement is run. -/
theorem steady (h : Twins db c d) {operation : Option Operation} {cql : String} {cells : List Cell}
    (hstood : ((Client.runStatement db operation cql cells).runOn d).2.StoodBy) :
    d.Steady db cql := by
  intro statement hcall
  have hbefore := (Client.runs db operation cql cells d).calls_of_uncached h.uncached
  have hpairs := hstood.sublist (hbefore.sublist.filterMap _)
  rw [List.filterMap_append, List.pairwise_append] at hpairs
  exact hpairs.2.2 (cql, .ok statement) (List.mem_filterMap.mpr ⟨_, hcall, rfl⟩) (cql, _)
    (List.mem_singleton_self _) rfl rfl

/-- Without identifiers to be made up, the cells do not depend on the supply of them. -/
theorem binds (table : String) (params : BindParams) :
    Alike (Twins db) (Twins db) Eq (Client.bindCells table params)
      (Client.bindCells table params) := by
  intro c d h
  have hcells : c.client.cells? table params = d.client.cells? table params := by
    have hpolicy := h.setting_eq Config.uuidWrites fun _ => rfl
    rw [Client.cells?, Client.cells?, hpolicy, h.honor, h.schemas_eq]
    exact params.toCells_honor _ _ _
  rw [Client.runOn_bindCells, Client.runOn_bindCells, hcells]
  cases d.client.cells? table params with
  | error error => exact ⟨.error error, h⟩
  | ok cells => exact ⟨.ok rfl, { h with }⟩

theorem compile_eq (h : Twins db c d) (request : Request) :
    c.client.compile request = d.client.compile request := by
  rw [Client.compile, Client.compile, h.chain_eq]

/-- Requests are carried out alike where the session stands by its statements. -/
theorem executes (hquiet : db.PreparesUnnoticed) (request : Request) :
    Alike (fun c d => Twins db c d ∧ ((Client.execute db request).runOn d).2.StoodBy) (Twins db) Eq
      (Client.execute db request) (Client.execute db request) := by
  rw [Client.execute_eq]
  refine (likeness db).opens.bind_ending (fun _ _ _ => ?_) fun _ _ h => h
  have hfinds : Alike (Twins db) (Twins db) Eq (Client.findStatement db request)
      (Client.findStatement db request) :=
    (likeness db).finds rfl rfl (fun c d h => .of_eq (h.compile_eq request))
      fun _ _ hquery => by rw [hquery]
  refine hfinds.bind_ending ?_ fun _ _ h => h
  rintro query _ rfl
  -- The statement is run last, so the session still stands by what it prepared for it.
  refine (binds request.table query.params).bind_ending ?_ fun _ _ h => h
  rintro cells _ rfl c d ⟨h, hstood⟩
  exact runs hquiet _ query.cql cells ⟨h, h.steady hstood⟩

theorem settled (h : Twins db c d) (r : Except Error α) :
    Twins db (Client.settled r c) (Client.settled r d) := by
  cases r with
  | ok result => exact { h with chain_eq := rfl }
  | error error =>
    simp only [Client.settled]
    split
    · exact h.say h.worlds _
    · exact { h with chain_eq := rfl }

theorem performs (hquiet : db.PreparesUnnoticed) (request : Request) :
    Alike (fun c d => Twins db c d ∧ ((Client.perform db request).runOn d).2.StoodBy) (Twins db) Eq
      (Client.perform db request) (Client.perform db request) := by
  rintro c d ⟨h, hstood⟩
  rw [Client.runOn_perform] at hstood
  have hcalls : ((Client.execute db request).runOn d).2.StoodBy :=
    hstood.of_calls (Client.calls_settled _ _ ▸ List.prefix_rfl)
  obtain ⟨houtcome, htwins⟩ := executes hquiet request ⟨h, hcalls⟩
  rw [Client.runOn_perform, Client.runOn_perform, houtcome.eq]
  exact ⟨.of_eq rfl, htwins.settled _⟩

/-- What is read from a result depends on settings that have nothing to do with the cache. -/
theorem finishes (hquiet : db.PreparesUnnoticed) (t : Terminal) :
    Alike (fun c d => Twins db c d ∧ ((t.carryOut db).runOn d).2.StoodBy) (Twins db) Eq
      (t.carryOut db) (t.carryOut db) := by
  rintro c d ⟨h, hstood⟩
  rw [t.runOn_carryOut_snd] at hstood
  have hperforms := performs hquiet t.request ⟨h, hstood⟩
  rw [t.runOn_carryOut, t.runOn_carryOut]
  generalize (Client.perform db t.request).runOn c = left at hperforms ⊢
  generalize (Client.perform db t.request).runOn d = right at hperforms ⊢
  obtain ⟨r, c'⟩ := left
  obtain ⟨r', d'⟩ := right
  obtain ⟨houtcome, htwins⟩ := hperforms
  cases houtcome with
  | ok hresult =>
    subst hresult
    have hconvert := htwins.setting_eq Config.autoConvert fun _ => rfl
    exact ⟨.of_eq (congrArg (t.read · _) hconvert), htwins⟩
  | error error => exact ⟨.error error, htwins⟩

/-- A statement written by hand is run last, and its result is read as the client is set up to. -/
theorem queries (hquiet : db.PreparesUnnoticed) (cql : String) :
    Alike (fun c d => Twins db c d ∧ ((Client.rawQuery db cql).runOn d).2.StoodBy) (Twins db) Eq
      (Client.rawQuery db cql) (Client.rawQuery db cql) := by
  rw [Client.rawQuery_eq]
  refine (likeness db).opens.bind_ending (fun _ _ _ => ?_) fun _ _ h => h
  rintro c d ⟨h, hstood⟩
  rw [Client.runOn_bind_outcomeOf_snd] at hstood
  refine (runs hquiet none cql []).bind ?_ (fun _ _ h => h) ⟨h, h.steady hstood⟩
  rintro result _ rfl c d h
  rw [Client.runOn_outcomeOf, Client.runOn_outcomeOf, h.setting_eq Config.autoConvert fun _ => rfl]
  exact ⟨.of_eq rfl, h⟩

theorem filters (h : Twins db c d) (f : Filter) :
    Twins db { c with client := f.apply c.client } { d with client := f.apply d.client } := by
  have hchain : (f.apply c.client).chain = (f.apply d.client).chain := by
    cases f <;> simp [Filter.apply, Client.whereCondition, Client.whereEqual,
      Client.whereOperator, Client.whereIn, Client.whereNotIn, Client.whereBetween,
      Client.whereNotBetween, Client.whereRaw, h.chain_eq]
  rw [f.apply_eq c.client, f.apply_eq d.client]
  exact { h with chain_eq := hchain }

/-- **What one command does,** it does alike for both. -/
theorem carriesOut (hquiet : db.PreparesUnnoticed) (command : Command) :
    Alike (fun c d => Twins db c d ∧ ((command.carryOut db).runOn d).2.StoodBy) (Twins db) Eq
      (command.carryOut db) (command.carryOut db) := by
  cases command with
  | filter f => exact fun c d h => ⟨.ok rfl, h.1.filters f⟩
  | reset => exact fun c d h => ⟨.ok rfl, { h.1 with chain_eq := rfl }⟩
  | compile request =>
    rintro c d ⟨h, -⟩
    exact (Alike.client fun c d h => h.compile_eq request).andThen
      (fun a b hab => .liftExcept (.of_eq hab)) h
  | rawQuery cql => exact queries hquiet cql
  | finish t => exact finishes hquiet t

/-- **Scripts,** played by both, have the same answers. -/
theorem plays (hquiet : db.PreparesUnnoticed) (script : List (Move World))
    (hdrift : ∀ change, .drift change ∈ script → ∀ w w', db.Indistinguishable w w' →
      db.Indistinguishable (change w) (change w')) :
    ∀ c d : Conversation World Prepared, Twins db c d → (Conversation.play db script d).2.StoodBy →
      (Conversation.play db script c).1 = (Conversation.play db script d).1 ∧
        Twins db (Conversation.play db script c).2 (Conversation.play db script d).2 := by
  induction script with
  | nil => exact fun c d h _ => ⟨rfl, h⟩
  | cons move rest ih =>
    intro c d h hstood
    have hrest := ih fun change hchange => hdrift change (List.mem_cons_of_mem _ hchange)
    cases move with
    | command command =>
      rw [Conversation.play_command] at hstood
      -- What the session has stood by after the script, it has stood by after the command.
      have hcommand := hstood.of_calls (Conversation.calls_prefix_play rest _)
      obtain ⟨houtcome, htwins⟩ := carriesOut hquiet command ⟨h, hcommand⟩
      obtain ⟨hanswers, hend⟩ := hrest _ _ htwins hstood
      rw [Conversation.play_command, Conversation.play_command, houtcome.eq, hanswers]
      exact ⟨rfl, hend⟩
    | drift change =>
      have hworlds := hdrift change List.mem_cons_self _ _ h.worlds
      rw [Conversation.play_drift] at hstood
      rw [Conversation.play_drift, Conversation.play_drift]
      exact hrest _ _ { h with worlds := hworlds } hstood

end Twins

/-! ## Any two caches -/

/-- A conversation of a new client that keeps statements or does not, as many as it has room for. -/
def Conversation.startKeeping (config : Config) (uuids : UuidSource) (world : World)
    (enabled : Bool) (capacity : Nat) : Conversation World Prepared where
  client := .new { config with cacheEnabled := enabled, cacheCapacity := capacity } uuids
  world := world

theorem Twins.start (db : Backend World Prepared) {config : Config}
    (hhonor : config.uuidWrites = .honor) (uuids uuids' : UuidSource) (world : World)
    (enabled : Bool) (capacity capacity' : Nat) :
    Twins db (.startKeeping config uuids world enabled capacity)
      (.startKeeping config uuids' world false capacity') where
  config_eq := rfl
  honor := hhonor
  connection_eq := rfl
  schemas_eq := rfl
  chain_eq := rfl
  stats_eq := rfl
  said_eq := rfl
  worlds := .refl world
  uncached := rfl
  kept := by
    intro cache hcache entry hentry
    rw [Client.eq_empty_of_new hcache] at hentry
    cases hentry

/-- **Keeping statements goes unnoticed.** Over a session that stands by the statements it has
prepared, and in which preparing goes unnoticed, a script has the same answers, executions and
reports with any two caches, and leaves the same conditions, connection, schema and counts; only the
counts of kept statements and of attempts to prepare may differ. What the session stands by is seen
where no statements are kept, for then each use is an attempt to prepare. -/
theorem Conversation.play_transparent {db : Backend World Prepared}
    (hquiet : db.PreparesUnnoticed) {config : Config} (hhonor : config.uuidWrites = .honor)
    (world : World) (script : List (Move World))
    (hdrift : ∀ change, .drift change ∈ script → ∀ w w', db.Indistinguishable w w' →
      db.Indistinguishable (change w) (change w'))
    (uuids₁ uuids₂ : UuidSource)
    (hstood : (play db script (startKeeping config uuids₁ world false 0)).2.StoodBy)
    (enabled₁ enabled₂ : Bool) (capacity₁ capacity₂ : Nat) :
    let first := play db script (startKeeping config uuids₁ world enabled₁ capacity₁)
    let second := play db script (startKeeping config uuids₂ world enabled₂ capacity₂)
    first.1 = second.1 ∧
      first.2.executions = second.2.executions ∧
      first.2.client.chain = second.2.client.chain ∧
      first.2.client.connection = second.2.client.connection ∧
      first.2.client.schemas = second.2.client.schemas ∧
      first.2.notices = second.2.notices ∧
      first.2.client.stats.apartFromCache = second.2.client.stats.apartFromCache := by
  intro first second
  -- Both are compared with a client that keeps no statements.
  obtain ⟨hanswers₁, h₁⟩ := Twins.plays hquiet script hdrift _ _
    (Twins.start db hhonor uuids₁ uuids₁ world enabled₁ capacity₁ 0) hstood
  obtain ⟨hanswers₂, h₂⟩ := Twins.plays hquiet script hdrift _ _
    (Twins.start db hhonor uuids₂ uuids₁ world enabled₂ capacity₂ 0) hstood
  have hsaid := h₁.said_eq.trans h₂.said_eq.symm
  exact ⟨hanswers₁.trans hanswers₂.symm, executions_of_said hsaid,
    h₁.chain_eq.trans h₂.chain_eq.symm, h₁.connection_eq.trans h₂.connection_eq.symm,
    h₁.schemas_eq.trans h₂.schemas_eq.symm, notices_of_said hsaid,
    h₁.stats_eq.trans h₂.stats_eq.symm⟩

/-- A statement that is run twice is prepared once or twice. -/
theorem Conversation.play_transparent_twice :
    let script : List (Move Memory) :=
      [.command (.rawQuery "USE shop"), .command (.rawQuery "USE shop")]
    let start := startKeeping (Config.honorUuids {}) default ({} : Memory)
    let kept := play Memory.backend script (start true 1)
    let anew := play Memory.backend script (start false 0)
    kept.1 = anew.1 ∧ kept.2.executions = anew.2.executions ∧
      kept.2.client.stats.prepares = 1 ∧ anew.2.client.stats.prepares = 2 := by
  intro script start kept anew
  have hdrift : ∀ change, .drift change ∈ script → ∀ w w', Memory.backend.Indistinguishable w w' →
      Memory.backend.Indistinguishable (change w) (change w') := by
    simp [script]
  have hsame := Conversation.play_transparent Backend.preparesUnnoticed_memory
    (show (Config.honorUuids {}).uuidWrites = .honor from rfl) {} script hdrift default default
    (by decide +kernel) true false 1 0
  refine ⟨hsame.1, hsame.2.1, ?_, ?_⟩
  · decide +kernel
  · decide +kernel

end WideColumn
