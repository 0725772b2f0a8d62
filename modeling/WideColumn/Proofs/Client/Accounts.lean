import WideColumn.Proofs.Client.RecentUse

/-! # Counts and calls

What a client counts is what it has done. Its counts agree with each other and with the calls that
it has made, in every state of a run: a statement is counted once, by its operation and by where it
was taken from, and what becomes of it is seen from the calls. -/

namespace WideColumn

variable {World Prepared : Type} {db : Backend World Prepared}

/-! ## What calls count -/

namespace Call

/-- Whether the catalog has answered a call, be it without columns. -/
def isAnswered : Call Prepared → Bool
  | columns _ (.ok _) => true
  | columns _ (.error _) | connect _ | prepare _ _ | execute _ _ _ _ => false

/-- Whether the session has prepared the statement of a call. -/
def isPrepared : Call Prepared → Bool
  | prepare _ (.ok _) => true
  | prepare _ (.error _) | connect _ | columns _ _ | execute _ _ _ _ => false

/-- Whether the session has refused to prepare the statement of a call. -/
def isRefused : Call Prepared → Bool
  | prepare _ (.error _) => true
  | prepare _ (.ok _) | connect _ | columns _ _ | execute _ _ _ _ => false

/-- Whether the session has failed to execute the statement of a call. -/
def isFailed : Call Prepared → Bool
  | execute _ _ _ (.error _) => true
  | execute _ _ _ (.ok _) | connect _ | columns _ _ | prepare _ _ => false

attribute [grind =] isPrepare isExecute isAnswered isPrepared isRefused isFailed

theorem countP_isFailed_le (calls : List (Call Prepared)) :
    calls.countP isFailed ≤ calls.countP isExecute := by
  apply List.countP_mono_left
  intro call _ hfailed
  cases call with
  | execute cql statement cells outcome => rfl
  | connect _ | columns _ _ | prepare _ _ => cases hfailed

end Call

/-! ## One call after the other

There is a lemma for everything that is counted or called. What it adds to one side of an equation
it adds to the other side, or it pays what was `sought` or `due`. -/

namespace Stats

/-- Whether counts agree with calls. A statement is counted when it is announced; it is `sought`
from then on until it is at hand or refused, and `due` from then on until it is executed. -/
structure Accounts (config : Config) (sought due : Nat) (calls : List (Call Prepared))
    (s : Stats) : Prop where
  by_operation : s.total = s.select + s.insert + s.update + s.delete + s.raw
  by_source : s.total = s.cacheHits + s.prepares + sought
  by_outcome : s.total =
    calls.countP Call.isExecute + calls.countP Call.isRefused + sought + due
  prepares_eq : s.prepares = calls.countP Call.isPrepare
  failed_eq : s.failed = calls.countP Call.isRefused + calls.countP Call.isFailed
  misses_eq : s.cacheMisses = if config.cacheEnabled then calls.countP Call.isPrepared else 0
  hits_eq : config.cacheEnabled = false ∨ config.cacheCapacity = 0 → s.cacheHits = 0
  refreshes_eq : s.schemaRefreshes = calls.countP Call.isAnswered

namespace Accounts

variable {config : Config} {sought due : Nat} {calls : List (Call Prepared)} {s : Stats}

/-- The session is not a statement. -/
theorem connect (h : s.Accounts config sought due calls) (outcome : Except Error Unit) :
    s.Accounts config sought due (calls ++ [.connect outcome]) := by
  grind [Accounts]

theorem refresh (h : s.Accounts config sought due calls) (table : String)
    (columns : List Column) :
    s.countRefresh.Accounts config sought due (calls ++ [.columns table (.ok columns)]) := by
  grind [Accounts, countRefresh]

/-- A catalog that does not answer is not counted. -/
theorem noRefresh (h : s.Accounts config sought due calls) (table : String) (error : Error) :
    s.Accounts config sought due (calls ++ [.columns table (.error error)]) := by
  grind [Accounts]

theorem announce (h : s.Accounts config 0 0 calls) (operation : Option Operation) :
    (s.countStatement operation).Accounts config 1 0 calls := by
  rcases operation with _ | _ | _ | _ | _ <;> grind [Accounts, countStatement]

/-- Statements are found only where some are kept. -/
theorem hit (h : s.Accounts config 1 0 calls) (henabled : config.cacheEnabled = true)
    (hcapacity : config.cacheCapacity ≠ 0) : s.countHit.Accounts config 0 1 calls := by
  grind [Accounts, countHit]

theorem refuse (h : s.Accounts config 1 0 calls) (cql : String) (error : Error) :
    s.countPrepare.countFailure.Accounts config 0 0 (calls ++ [.prepare cql (.error error)]) := by
  grind [Accounts, countPrepare, countFailure]

theorem keep (h : s.Accounts config 1 0 calls) (henabled : config.cacheEnabled = true)
    (cql : String) (statement : Prepared) :
    s.countPrepare.countMiss.Accounts config 0 1 (calls ++ [.prepare cql (.ok statement)]) := by
  grind [Accounts, countPrepare, countMiss]

/-- Nothing is missed by a client that keeps no statements. -/
theorem pass (h : s.Accounts config 1 0 calls) (hdisabled : config.cacheEnabled = false)
    (cql : String) (statement : Prepared) :
    s.countPrepare.Accounts config 0 1 (calls ++ [.prepare cql (.ok statement)]) := by
  grind [Accounts, countPrepare]

theorem run (h : s.Accounts config 0 1 calls) (cql : String) (statement : Prepared)
    (cells : List Cell) (result : ResultSet) :
    s.Accounts config 0 0 (calls ++ [.execute cql statement cells (.ok result)]) := by
  grind [Accounts]

theorem fail (h : s.Accounts config 0 1 calls) (cql : String) (statement : Prepared)
    (cells : List Cell) (error : Error) :
    s.countFailure.Accounts config 0 0
      (calls ++ [.execute cql statement cells (.error error)]) := by
  grind [Accounts, countFailure]

/-- No more statements fail than are run. -/
theorem failed_le (h : s.Accounts config sought due calls) : s.failed ≤ s.total := by
  have hfailed := Call.countP_isFailed_le calls
  rw [h.failed_eq, h.by_outcome]
  omega

end Accounts

end Stats

/-! ## One phase after the other -/

namespace Client

variable {c c' : Conversation World Prepared} {table cql : String} {uses : List String}
  {sought due : Nat}

/-- Whether the counts of a client agree with the calls that it has made. -/
def Accounts (sought due : Nat) (c : Conversation World Prepared) : Prop :=
  c.client.stats.Accounts c.client.config sought due c.calls

theorem Connects.accounts {r : Except Error Unit} (conn : Connects db c r c')
    (h : Accounts sought due c) : Accounts sought due c' := by
  cases conn with
  | ready hc | disabled hc => exact h
  | opened hc hw =>
    rw [Accounts, Conversation.calls_append]
    exact Stats.Accounts.connect h _
  | refused hc hw =>
    rw [Accounts, Conversation.calls_append]
    exact Stats.Accounts.connect h _

theorem Loads.accounts {r : Except Error Unit} (load : Loads db table c r c')
    (h : Accounts sought due c) : Accounts sought due c' := by
  cases load with
  | kept hc => exact h
  | failed hc hw =>
    rw [Accounts, Conversation.calls_append]
    exact Stats.Accounts.noRefresh h _ _
  | missing hc hw =>
    rw [Accounts, Conversation.calls_append]
    exact Stats.Accounts.refresh h _ _
  | loaded hc hw hne =>
    rw [Accounts, Conversation.calls_append]
    exact Stats.Accounts.refresh h _ _

theorem accounts_announced (operation : Option Operation) (cql : String) (cells : List Cell)
    (h : Accounts 0 0 c) : Accounts 1 0 (announced operation cql cells c) := by
  have hcalls : (announced operation cql cells c).calls = c.calls := by simp [announced]
  rw [Accounts, hcalls]
  exact h.announce operation

/-- A text that is kept is one of no more than there is room for. -/
theorem KeepsRecent.capacity_ne_zero (keeps : c.client.KeepsRecent uses)
    {cache : StatementCache Prepared} (hcache : c.client.statements = some cache)
    {statement : Prepared} (hget : cache.get? cql = some statement) :
    c.client.config.cacheCapacity ≠ 0 := by
  obtain ⟨hcapacity, hholds⟩ := keeps.holds cache hcache
  have htext : cql ∈ cache.texts := StatementCache.isSome_get?_iff.mp (by rw [hget]; rfl)
  -- Without room nothing is remembered as used, so no text is kept.
  intro hzero
  have hnone := hholds.reverse_recency
  rw [hcapacity, hzero, List.take_zero, List.reverse_eq_nil_iff] at hnone
  rw [hholds.texts_perm.mem_iff, hnone] at htext
  cases htext

/-- A statement that is at hand was found or prepared. -/
theorem Prepares.accounts_of_ok {statement : Prepared}
    (prep : Prepares db cql c (.ok statement) c') (keeps : c.client.KeepsRecent uses)
    (h : Accounts 1 0 c) : Accounts 0 1 c' := by
  have henabled := keeps.isSome_statements
  cases prep with
  | kept hcache hget =>
    rw [hcache] at henabled
    exact h.hit henabled.symm (keeps.capacity_ne_zero hcache hget)
  | prepared hget hw =>
    rw [Accounts, Conversation.calls_append]
    -- Whether it counts as missed depends on the settings, even where there is no room for it.
    cases hs : c.client.statements with
    | none =>
      rw [hs] at henabled
      simp only [keepStatement, hs]
      exact Stats.Accounts.pass h henabled.symm cql statement
    | some cache =>
      rw [hs] at henabled
      simp only [keepStatement, hs]
      exact Stats.Accounts.keep h henabled.symm cql statement

theorem Prepares.accounts_of_error {error : Error} (prep : Prepares db cql c (.error error) c')
    (h : Accounts 1 0 c) : Accounts 0 0 c' := by
  cases prep with
  | refused hget hw =>
    rw [Accounts, Conversation.calls_append]
    exact Stats.Accounts.refuse h cql _

theorem Runs.accounts {operation : Option Operation} {cells : List Cell}
    {r : Except Error ResultSet} (run : Runs db operation cql cells c r c')
    (keeps : c.client.KeepsRecent uses) (h : Accounts 0 0 c) : Accounts 0 0 c' := by
  -- The statement is counted before anything is known about it.
  have hsought := accounts_announced operation cql cells h
  have hkeeps : (announced operation cql cells c).client.KeepsRecent uses := keeps.congr rfl rfl
  cases run with
  | unprepared prep => exact prep.accounts_of_error hsought
  | failed prep hw =>
    have hdue := prep.accounts_of_ok hkeeps hsought
    rw [Accounts, Conversation.calls_append]
    exact Stats.Accounts.fail hdue cql _ cells _
  | ran prep hw =>
    have hdue := prep.accounts_of_ok hkeeps hsought
    rw [Accounts, Conversation.calls_append]
    exact Stats.Accounts.run hdue cql _ cells _

/-- Every part of a command keeps the accounts, as long as it keeps the statements used last. -/
theorem Accounts.invariant (db : Backend World Prepared) :
    Invariant db fun c : Conversation World Prepared =>
      c.client.KeepsRecent c.uses ∧ Accounts 0 0 c where
  drift world h := ⟨(KeepsRecent.invariant db).drift world h.1, h.2⟩
  rechain chain h := ⟨(KeepsRecent.invariant db).rechain chain h.1, h.2⟩
  report {c} notice h := by
    refine ⟨(KeepsRecent.invariant db).report notice h.1, ?_⟩
    have hcalls : Conversation.calls { c with events := c.events ++ [.notice notice] } =
        c.calls := by simp
    rw [Accounts, hcalls]
    exact h.2
  mint count h := ⟨(KeepsRecent.invariant db).mint count h.1, h.2⟩
  connects conn h := ⟨(KeepsRecent.invariant db).connects conn h.1, conn.accounts h.2⟩
  loads load h := ⟨(KeepsRecent.invariant db).loads load h.1, load.accounts h.2⟩
  runs run h := ⟨(KeepsRecent.invariant db).runs run h.1, run.accounts h.1 h.2⟩

end Client

/-- **What a client counts is what it has done.** In every state of a run, statements are counted
once by their operations and once by where they were taken from; the session has been asked to
prepare those that were not kept and has executed those that it did not refuse; what failed was
refused or failed to execute. Statements that were prepared count as missed where they are kept at
all, be there room for them or not; none are found where there is no room; and the catalog's answers
are counted, whatever they were. -/
theorem Run.stats_account {history : List Entry} {c : Conversation World Prepared}
    (run : Run db history c) :
    let s := c.client.stats
    s.total = s.select + s.insert + s.update + s.delete + s.raw ∧
    s.total = s.cacheHits + s.prepares ∧
    s.prepares = c.calls.countP Call.isPrepare ∧
    s.failed = c.calls.countP Call.isRefused + c.calls.countP Call.isFailed ∧
    s.failed ≤ s.total ∧
    c.calls.countP Call.isRefused ≤ s.total ∧
    s.total - c.calls.countP Call.isRefused = c.calls.countP Call.isExecute ∧
    s.cacheMisses =
      (if c.client.config.cacheEnabled then c.calls.countP Call.isPrepared else 0) ∧
    (c.client.config.cacheEnabled = false ∨ c.client.config.cacheCapacity = 0 →
      s.cacheHits = 0) ∧
    s.schemaRefreshes = c.calls.countP Call.isAnswered := by
  intro s
  have hstart (config : Config) : ({} : Stats).Accounts config 0 0 ([] : List (Call Prepared)) := by
    constructor <;> simp
  obtain ⟨-, h⟩ := (Client.Accounts.invariant db).run
    (fun config uuids world => ⟨.new config uuids, hstart config⟩) run
  have houtcome : s.total = c.calls.countP Call.isExecute + c.calls.countP Call.isRefused :=
    h.by_outcome
  exact ⟨h.by_operation, h.by_source, h.prepares_eq, h.failed_eq, h.failed_le, by omega, by omega,
    h.misses_eq, h.hits_eq, h.refreshes_eq⟩

/-- Five statements: a text that is prepared and then found, one that is refused, one that fails to
execute, and a removal that asks the catalog before. -/
theorem Run.stats_account_five :
    ∃ (history : List Entry) (c : Conversation Memory String), Run Memory.backend history c ∧
      c.client.stats =
        { total := 5, failed := 2, delete := 1, raw := 4, cacheHits := 1, cacheMisses := 3
          prepares := 4, schemaRefreshes := 1 } ∧
      c.calls.countP Call.isPrepare = 4 ∧ c.calls.countP Call.isPrepared = 3 ∧
      c.calls.countP Call.isRefused = 1 ∧ c.calls.countP Call.isExecute = 4 ∧
      c.calls.countP Call.isAnswered = 1 := by
  let world : Memory :=
    { tables := [("users", [("id", .int)])]
      prepareFailure := some ⟨"bad", .other "refused"⟩
      executeFailure := some ⟨"slow", .other "timeout"⟩ }
  have start : Run Memory.backend [] (Conversation.fresh {} world) := .start {} default world
  have run := ((((start.step (.rawQuery "a")).step (.rawQuery "a")).step (.rawQuery "bad")).step
    (.rawQuery "slow")).step (.finish (.delete "users" none))
  obtain ⟨-, -, hprepares, -, -, -, hexecuted, hmisses, -, hrefreshes⟩ := Run.stats_account run
  refine ⟨_, _, run, ?_, ?_, ?_, ?_, ?_, ?_⟩
  · decide +kernel
  · rw [← hprepares]
    decide +kernel
  · rw [if_pos (by decide +kernel)] at hmisses
    rw [← hmisses]
    decide +kernel
  · decide +kernel
  · rw [← hexecuted]
    decide +kernel
  · rw [← hrefreshes]
    decide +kernel

end WideColumn
