import WideColumn.Proofs.Client.Conditions
import WideColumn.Proofs.Client.Lifecycle
import WideColumn.Proofs.Conversion.BoundCells

/-! # Fatal errors

An error that says that a client is of no further use comes from a session that could not be opened,
or from the catalog, whose errors are handed on as they are. It is true of the first kind and not of
the second. No other part of a request fails in this way. -/

namespace WideColumn

variable {World Prepared : Type} {db : Backend World Prepared} {error : Error}

/-! ## Where no error is fatal -/

theorem Error.isFatal_eq_of_isSessionError (h : error.isSessionError = true) :
    error.isFatal = false := by
  cases error with
  | prepare cql message | execution cql message => rfl
  | _ => cases h

theorem Conversion.isFatal_eq_of_convert {policy : UuidPolicy} {mint : Mint} {schema : Schema}
    {column : String} {value : Value}
    (h : convert policy mint schema column value = .error error) : error.isFatal = false := by
  rw [convert] at h
  split at h
  · cases h
    rfl
  · next type _ =>
    rw [convertTyped] at h
    cases hcell : toCell policy mint type value with
    | ok cell =>
      rw [hcell] at h
      cases h
    | error fault =>
      rw [hcell] at h
      cases h
      rfl

theorem Bind.isFatal_eq_of_toCell {schema : Option Schema} {policy : UuidPolicy} {mint : Mint}
    {b : Bind} (h : b.toCell schema policy mint = .error error) : error.isFatal = false := by
  obtain ⟨column, value, role⟩ := b
  cases schema with
  | none =>
    cases role with
    | written =>
      cases h
      rfl
    | operand => cases h
  | some schema =>
    cases role with
    | written => exact Conversion.isFatal_eq_of_convert h
    | operand =>
      simp only [toCell] at h
      split at h
      · exact Conversion.isFatal_eq_of_convert h
      · cases h

namespace Client

variable {c c' : Conversation World Prepared} {table cql : String} {request : Request}

theorem isFatal_eq_of_cells? {c : Client Prepared} {params : BindParams}
    (h : c.cells? table params = .error error) : error.isFatal = false := by
  obtain ⟨b, -, mint, hb⟩ := Bind.exists_of_toCells_eq_error h
  exact Bind.isFatal_eq_of_toCell hb

theorem isFatal_eq_of_compile {c : Client Prepared} (h : c.compile request = .error error) :
    error.isFatal = false := by
  rw [compile] at h
  cases hfault : c.chain.fault with
  | some fault =>
    simp only [Chain.error?, hfault, Option.map_some, Except.error.injEq] at h
    rw [← h]
    rfl
  | none =>
    simp only [Chain.error?, hfault, Option.map_none] at h
    -- What is left to go wrong is that there is nothing to write.
    cases request with
    | select table limit columns | delete table limit => cases h
    | insert table payload | update table payload =>
      rw [Request.statement] at h
      split at h
      · cases h
        rfl
      · cases h

/-! ## Where one can be -/

/-- Whether the catalog has failed with an error between two conversations. -/
def Unanswered (error : Error) (c c' : Conversation World Prepared) : Prop :=
  ∃ table made, c'.calls = c.calls ++ made ∧ .columns table (.error error) ∈ made

theorem Loads.unanswered (h : Loads db table c (.error error) c')
    (hfatal : error.isFatal = true) : Unanswered error c c' := by
  cases h with
  | failed h hw => exact ⟨table, _, Conversation.calls_append _ _ _ _, by simp⟩
  | missing h hw => cases hfatal

theorem Finds.unanswered (h : Finds db request c (.error error) c')
    (hfatal : error.isFatal = true) : Unanswered error c c' := by
  cases h with
  | unloaded load hp => exact load.unanswered hfatal
  | uncompiled load h => cases hfatal.symm.trans (isFatal_eq_of_compile h)

/-- **Behind an open session, only the catalog can be fatal.** -/
theorem Executes.unanswered (h : Executes db request c (.error error) c')
    (hfatal : error.isFatal = true) (hready : c'.client.connection = .ready) :
    Unanswered error c c' := by
  cases h with
  | unconnected conn =>
    obtain ⟨message, -, hfailed⟩ := conn.eq_connect
    cases hfailed.symm.trans hready
  | unfound conn find =>
    obtain ⟨table, made, hmade, hmem⟩ := find.unanswered hfatal
    obtain ⟨before, hbefore, -⟩ := conn.continues
    refine ⟨table, before ++ made, ?_, List.mem_append_right _ hmem⟩
    rw [hmade, hbefore.calls_eq, List.append_assoc]
  | unbound conn find bind => cases hfatal.symm.trans (isFatal_eq_of_cells? bind)
  | ran conn find bind run =>
    cases hfatal.symm.trans (Error.isFatal_eq_of_isSessionError run.isSessionError_eq)

/-- A statement written by hand has nothing to do with the catalog. -/
theorem Queries.connection_ne_ready (h : Queries db cql c (.error error) c')
    (hfatal : error.isFatal = true) : c'.client.connection ≠ .ready := by
  cases h with
  | unconnected conn =>
    obtain ⟨message, -, hfailed⟩ := conn.eq_connect
    simp [hfailed]
  | ran conn run =>
    cases hfatal.symm.trans (Error.isFatal_eq_of_isSessionError run.isSessionError_eq)

end Client

/-! ## Commands -/

/-- A fatal error of an operation is one of its request. -/
theorem Terminal.execute_eq_of_isFatal {t : Terminal} (hread : t.ReadsByDecoding)
    {c : Conversation World Prepared} (h : ((t.carryOut db).runOn c).1 = .error error)
    (hfatal : error.isFatal = true) : ((Client.execute db t.request).runOn c).1 = .error error := by
  rw [t.runOn_carryOut_fst] at h
  cases hr : ((Client.execute db t.request).runOn c).1 with
  | error fault =>
    rw [hr] at h
    cases h
    rfl
  | ok result =>
    rw [hr] at h
    -- The request succeeded, and reading rows is never fatal.
    obtain ⟨message, rfl⟩ | ⟨column, message, rfl⟩ := error_of_read hread h <;> cases hfatal

namespace Command

variable {command : Command} {c : Conversation World Prepared}

/-- Fatal errors come from what needs the session. -/
theorem isOperation_of_isFatal (herror : ((command.carryOut db).runOn c).1 = .error error)
    (hfatal : error.isFatal = true) : command.isOperation = true := by
  cases command with
  | filter f | reset => cases herror
  | compile request =>
    rw [runOn_compile] at herror
    cases hfatal.symm.trans (Client.isFatal_eq_of_compile herror)
  | rawQuery cql | finish t => rfl

/-- A fatal error of a client that is connected is one of the catalog. -/
theorem unanswered (hread : command.ReadsByDecoding)
    (herror : ((command.carryOut db).runOn c).1 = .error error) (hfatal : error.isFatal = true)
    (hready : ((command.carryOut db).runOn c).2.client.connection = .ready) :
    ∃ table, .columns table (.error error) ∈ (command.carryOut db).calls c := by
  have hop := isOperation_of_isFatal herror hfatal
  cases command with
  | filter f | reset | compile request => cases hop
  | rawQuery cql =>
    obtain ⟨r, hquery, hr⟩ := Client.queries db cql c
    have hfailed : r = .error error := by
      have hmap := hr.symm.trans herror
      cases r with
      | ok result => cases hmap
      | error fault =>
        cases hmap
        rfl
    rw [hfailed] at hquery
    exact absurd hready (hquery.connection_ne_ready hfatal)
  | finish t =>
    have hr := t.execute_eq_of_isFatal hread herror hfatal
    have hexecutes := Client.executes db t.request c
    rw [hr] at hexecutes
    have hsettled : ((t.carryOut db).runOn c).2 =
        Client.settled (.error error : Except Error ResultSet)
          ((Client.execute db t.request).runOn c).2 := by
      rw [t.runOn_carryOut_snd, Client.runOn_perform, hr]
    have hkept : (error.isFatal || error.isSessionError) = true := by rw [hfatal, Bool.true_or]
    change ((t.carryOut db).runOn c).2.client.connection = .ready at hready
    rw [hsettled, Client.client_settled_error hkept] at hready
    obtain ⟨table, made, hmade, hmem⟩ := hexecutes.unanswered hfatal hready
    have hcalls : (t.carryOut db).calls c = made := by
      apply Action.calls_eq
      rw [hsettled, Client.calls_settled, hmade]
    exact ⟨table, hcalls ▸ hmem⟩

/-- **A fatal error is final unless it is one of the catalog.** A command that fails in this way and
leaves the client connected has met an error of the catalog, and the client stays connected whatever
comes next. Otherwise the catalog has not been asked, and from then on, whatever comes in between,
whatever needs the session fails with the same error, changes nothing and calls for nothing. -/
theorem fatal_unless_connected (db : Backend World Prepared) (hread : command.ReadsByDecoding)
    (herror : ((command.carryOut db).runOn c).1 = .error error) (hfatal : error.isFatal = true) :
    let c' := ((command.carryOut db).runOn c).2
    (c'.client.isConnected = true →
      (∃ table, .columns table (.error error) ∈ (command.carryOut db).calls c) ∧
      ∀ script : List (Move World),
        (Conversation.play db script c').2.client.isConnected = true) ∧
    (c'.client.isConnected = false →
      (∀ call ∈ (command.carryOut db).calls c, call.isConnect = true) ∧
      ∀ script : List (Move World),
        let c'' := (Conversation.play db script c').2
        ∀ later : Command, later.isOperation = true →
          ((later.carryOut db).runOn c'').1 = .error error ∧
          ((later.carryOut db).runOn c'').2.client = c''.client ∧
          (later.carryOut db).calls c'' = []) := by
  intro c'
  constructor
  · intro h
    exact ⟨unanswered hread herror hfatal (Client.isConnected_iff.mp h),
      Conversation.isConnected_play db h⟩
  · intro h
    have hadmits := command.admits db (isOperation_of_isFatal herror hfatal) c
    rw [herror] at hadmits
    cases hadmits with
    | admitted conn stays =>
      have hready := Client.isConnected_iff.mpr (stays.connection_eq.trans conn.connection_eq)
      cases h.symm.trans hready
    | barred conn hclient hcalls =>
      obtain ⟨message, heq, hfailed⟩ := conn.eq_connect
      cases heq
      rw [← hclient] at hfailed
      obtain ⟨made, hmade, hconnect⟩ := conn.calls_connect
      refine ⟨?_, fun script later hop => ?_⟩
      · rw [Action.calls_eq (hcalls.trans hmade)]
        exact hconnect
      · exact Conversation.carryOut_play_of_failed db hfailed script hop

/-- A change that finds no session is followed by a removal that finds none either, although by then
there would be one. -/
theorem fatal_unless_connected_update :
    let error := Error.connect "no route"
    let c := Conversation.fresh {} { connectFailure := some error }
    let change := Command.finish (.update "users" ⟨[("name", .value (.text "a"))]⟩)
    let c' := ((change.carryOut Memory.backend).runOn c).2
    let script : List (Move Memory) := [.command .reset, .drift Memory.clearFailures]
    let c'' := (Conversation.play Memory.backend script c').2
    ((change.carryOut Memory.backend).runOn c).1 = .error error ∧
      ((Client.delete Memory.backend "users" none).runOn c'').1 = .error error ∧
      (Client.delete Memory.backend "users" none).calls c'' = [] := by
  intro error c change c' script c''
  have herror : ((change.carryOut Memory.backend).runOn c).1 = .error error := by rfl
  have hread : change.ReadsByDecoding := trivial
  obtain ⟨-, hdisabled⟩ := fatal_unless_connected Memory.backend hread herror rfl
  obtain ⟨-, hlater⟩ := hdisabled (by rfl)
  obtain ⟨hagain, -, hnone⟩ := hlater script (.finish (.delete "users" none)) rfl
  exact ⟨herror, hagain, hnone⟩

/-- An error of the catalog that says that its client is of no further use, and a statement that the
same client runs right after it. -/
theorem works_after_fatal :
    let error := Error.connect "catalog node down"
    let world : Memory := { tables := [("users", [("id", .int)])], columnsFailure := some error }
    let c := Conversation.fresh {} world
    let c' := ((Client.delete Memory.backend "users" none).runOn c).2
    Run Memory.backend [] c ∧
      ((Client.delete Memory.backend "users" none).runOn c).1 = .error error ∧
      error.isFatal = true ∧
      ((Client.rawQuery Memory.backend "TRUNCATE users").runOn c').1 = .ok .applied ∧
      ((Client.rawQuery Memory.backend "TRUNCATE users").calls c').filterMap Call.execution? =
        [("TRUNCATE users", [])] := by
  intro error world c c'
  refine ⟨.start {} default world, rfl, rfl, rfl, ?_⟩
  decide +kernel

end Command

end WideColumn
