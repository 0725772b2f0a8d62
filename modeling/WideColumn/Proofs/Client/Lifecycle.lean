import WideColumn.Proofs.Client.Scripts
import WideColumn.Proofs.Client.Failures

/-! # The life of a session

A client asks for its session once, when it first has to, and what comes of that is decided for
good. Nothing else is called for before the session is open, and nothing at all after it could not
be opened. -/

namespace WideColumn

variable {World Prepared : Type} {db : Backend World Prepared}

/-- Whether a call asks for the session. -/
def Call.isConnect : Call Prepared → Bool
  | connect _ => true
  | columns _ _ | prepare _ _ | execute _ _ _ _ => false

/-- Whether a command needs the session, as operations and statements written by hand do. -/
def Command.isOperation : Command → Bool
  | rawQuery _ | finish _ => true
  | filter _ | reset | compile _ => false

namespace Client

variable {c c₁ c' : Conversation World Prepared} {table cql : String} {request : Request}
  {α : Type}

/-! ## Behind the session -/

/-- From one conversation to a later one without asking for the session, which stays in the state
that it is in. -/
structure Stays (c c' : Conversation World Prepared) : Prop where
  connection_eq : c'.client.connection = c.client.connection
  calls : ∃ made, c'.calls = c.calls ++ made ∧ ∀ call ∈ made, call.isConnect = false

namespace Stays

theorem of_calls_eq (hconnection : c'.client.connection = c.client.connection)
    (hcalls : c'.calls = c.calls) : Stays c c' :=
  ⟨hconnection, [], by rw [hcalls, List.append_nil], by simp⟩

theorem refl (c : Conversation World Prepared) : Stays c c := of_calls_eq rfl rfl

theorem trans (h₁ : Stays c c₁) (h₂ : Stays c₁ c') : Stays c c' where
  connection_eq := h₂.connection_eq.trans h₁.connection_eq
  calls := by
    obtain ⟨made₁, hcalls₁, hnone₁⟩ := h₁.calls
    obtain ⟨made₂, hcalls₂, hnone₂⟩ := h₂.calls
    refine ⟨made₁ ++ made₂, ?_, List.forall_mem_append.mpr ⟨hnone₁, hnone₂⟩⟩
    rw [hcalls₂, hcalls₁, List.append_assoc]

end Stays

theorem Loads.stays {r : Except Error Unit} (h : Loads db table c r c') : Stays c c' := by
  cases h with
  | kept h => exact .refl _
  | failed h hw | missing h hw | loaded h hw hne =>
    exact ⟨rfl, _, Conversation.calls_append _ _ _ _, by simp [List.filterMap_cons, Call.isConnect]⟩

theorem Finds.stays {r : Except Error Query} (h : Finds db request c r c') : Stays c c' := by
  cases h with
  | unloaded load hp => exact load.stays
  | uncompiled load h =>
    rcases load with rfl | load
    · exact .refl _
    · exact load.stays
  | unbound hs h hp => exact .refl _
  | loaded load h hp => exact load.stays

theorem Runs.stays {operation : Option Operation} {cells : List Cell} {r : Except Error ResultSet}
    (h : Runs db operation cql cells c r c') : Stays c c' := by
  obtain ⟨statements, stats, hclient⟩ := h.client_eq
  obtain ⟨made, hmade, hruns, -⟩ := h.continues
  refine ⟨by rw [hclient], made, hmade.calls_eq, fun call hcall => ?_⟩
  rcases hruns call hcall with ⟨outcome, rfl⟩ | ⟨statement, outcome, rfl⟩ <;> rfl

theorem stays_settled (r : Except Error α) (c : Conversation World Prepared) :
    Stays c (settled r c) := by
  obtain ⟨chain, hclient⟩ := client_settled r c
  exact .of_calls_eq (by rw [hclient]) (calls_settled r c)

/-! ## In front of it -/

/-- What becomes of the session decides whether anything else is done: where it is not open, that is
the outcome and the client is as it was before. -/
inductive Admits (db : Backend World Prepared) (c : Conversation World Prepared) :
    Except Error α → Conversation World Prepared → Prop
  /-- There is no session. -/
  | barred {message : String} {c₁ c' : Conversation World Prepared}
    (conn : Connects db c (.error (.connect message)) c₁) (client_eq : c'.client = c₁.client)
    (calls_eq : c'.calls = c₁.calls) : Admits db c (.error (.connect message)) c'
  /-- The session is open. -/
  | admitted {r : Except Error α} {c₁ c' : Conversation World Prepared}
    (conn : Connects db c (.ok ()) c₁) (stays : Stays c₁ c') : Admits db c r c'

theorem Connects.eq_connect {error : Error} (h : Connects db c (.error error) c') :
    ∃ message, error = .connect message ∧ c'.client.connection = .failed message := by
  cases h with
  | @disabled message h => exact ⟨message, rfl, h⟩
  | @refused error world h hw => exact ⟨error.connectMessage, rfl, rfl⟩

/-- Seeing to the session calls for nothing else. -/
theorem Connects.calls_connect {r : Except Error Unit} (h : Connects db c r c') :
    ∃ made, c'.calls = c.calls ++ made ∧ ∀ call ∈ made, call.isConnect = true := by
  cases h with
  | ready h | disabled h => exact ⟨[], (List.append_nil _).symm, by simp⟩
  | opened h hw | refused h hw =>
    exact ⟨_, Conversation.calls_append _ _ _ _, by simp [List.filterMap_cons, Call.isConnect]⟩

/-- What has become of the session is not tried again. -/
theorem Connects.eq_of_not_idle {r : Except Error Unit} (h : Connects db c r c')
    (hc : c.client.connection ≠ .idle) : c' = c := by
  cases h with
  | ready h | disabled h => rfl
  | opened h hw | refused h hw => exact absurd h hc

theorem Executes.admits {r : Except Error ResultSet} (h : Executes db request c r c') :
    Admits db c r c' := by
  cases h with
  | unconnected conn =>
    obtain ⟨message, rfl, -⟩ := conn.eq_connect
    exact .barred conn rfl rfl
  | unfound conn find => exact .admitted conn find.stays
  | unbound conn find bind => exact .admitted conn find.stays
  | @ran query cells _ c₁ c₂ _ conn find bind run =>
    have minted : Stays c₂ (mintedFor query.params.size c₂) := .of_calls_eq rfl rfl
    exact .admitted conn ((find.stays.trans minted).trans run.stays)

theorem Queries.admits {r : Except Error ResultSet} (h : Queries db cql c r c') :
    Admits db c r c' := by
  cases h with
  | unconnected conn =>
    obtain ⟨message, rfl, -⟩ := conn.eq_connect
    exact .barred conn rfl rfl
  | ran conn run => exact .admitted conn run.stays

namespace Admits

variable {β : Type} {r : Except Error α}

/-- What is made of a result does not matter here. -/
theorem bind (h : Admits db c r c') (f : α → Except Error β) : Admits db c (r.bind f) c' := by
  cases h with
  | barred conn hclient hcalls => exact .barred conn hclient hcalls
  | admitted conn stays => exact .admitted conn stays

/-- Conditions are kept where there is no session. -/
theorem settled (h : Admits db c r c') : Admits db c r (Client.settled r c') := by
  cases h with
  | barred conn hclient hcalls =>
    refine .barred conn ?_ ?_
    · rw [client_settled_error rfl, hclient]
    · rw [calls_settled, hcalls]
  | admitted conn stays => exact .admitted conn (stays.trans (stays_settled r c'))

end Admits

end Client

/-! ## Commands -/

namespace Command

variable {command : Command} {c : Conversation World Prepared}

/-- **Whatever needs the session sees to it first.** -/
theorem admits (db : Backend World Prepared) (h : command.isOperation = true)
    (c : Conversation World Prepared) :
    Client.Admits db c ((command.carryOut db).runOn c).1 ((command.carryOut db).runOn c).2 := by
  cases command with
  | filter f | reset | compile request => cases h
  | rawQuery cql =>
    obtain ⟨r, hquery, hr⟩ := Client.queries db cql c
    show Client.Admits db c ((Client.rawQuery db cql).runOn c).1
      ((Client.rawQuery db cql).runOn c).2
    rw [hr]
    exact hquery.admits.bind fun result => .ok _
  | finish t =>
    show Client.Admits db c ((t.carryOut db).runOn c).1 ((t.carryOut db).runOn c).2
    rw [t.runOn_carryOut_fst, t.runOn_carryOut_snd, Client.runOn_perform]
    exact (Client.executes db t.request c).admits.settled.bind _

/-- Anything else is between a caller and the client. -/
theorem calls_eq_of_not_isOperation (db : Backend World Prepared)
    (h : command.isOperation = false) (c : Conversation World Prepared) :
    ((command.carryOut db).runOn c).2.calls = c.calls ∧
      ((command.carryOut db).runOn c).2.client.connection = c.client.connection := by
  cases command with
  | filter f =>
    refine ⟨rfl, ?_⟩
    show (f.apply c.client).connection = _
    rw [f.apply_eq]
  | reset => exact ⟨rfl, rfl⟩
  | compile request =>
    rw [runOn_compile]
    exact ⟨rfl, rfl⟩
  | rawQuery cql | finish t => cases h

/-- What has become of the session is not changed by any command. -/
theorem connection_carryOut (db : Backend World Prepared) (command : Command)
    (h : c.client.connection ≠ .idle) :
    ((command.carryOut db).runOn c).2.client.connection = c.client.connection := by
  cases hop : command.isOperation with
  | false => exact (calls_eq_of_not_isOperation db hop c).2
  | true =>
    have hadmits := command.admits db hop c
    generalize ((command.carryOut db).runOn c).1 = r at hadmits
    cases hadmits with
    | barred conn hclient hcalls => rw [hclient, conn.eq_of_not_idle h]
    | admitted conn stays => rw [stays.connection_eq, conn.eq_of_not_idle h]

/-- **A client whose session could not be opened does nothing** but say so. -/
theorem carryOut_of_failed (db : Backend World Prepared) (hop : command.isOperation = true)
    {message : String} (h : c.client.connection = .failed message) :
    ((command.carryOut db).runOn c).1 = .error (.connect message) ∧
      ((command.carryOut db).runOn c).2.client = c.client ∧ (command.carryOut db).calls c = [] := by
  have hadmits := command.admits db hop c
  generalize hr : ((command.carryOut db).runOn c).1 = r at hadmits
  cases hadmits with
  | barred conn hclient hcalls =>
    have hc := conn.eq_of_not_idle (by simp [h])
    cases conn.of_failed h
    refine ⟨rfl, by rw [hclient, hc], Action.calls_eq ?_⟩
    rw [hcalls, hc, List.append_nil]
  | admitted conn stays => cases conn.of_failed h

/-- A command that asks for the session in vain says why, and changes nothing else. -/
theorem carryOut_of_refused {error : Error}
    (h : .connect (.error error) ∈ (command.carryOut db).calls c) :
    ((command.carryOut db).runOn c).1 = .error (.connect error.connectMessage) ∧
      ((command.carryOut db).runOn c).2.client =
        { c.client with connection := .failed error.connectMessage } := by
  cases hop : command.isOperation with
  | false =>
    have hcalls := (calls_eq_of_not_isOperation db hop c).1
    rw [Action.calls, hcalls, List.drop_length] at h
    cases h
  | true =>
    have hadmits := command.admits db hop c
    generalize hr : ((command.carryOut db).runOn c).1 = r at hadmits
    cases hadmits with
    | barred conn hclient hcalls =>
      -- A refusal that was known before makes no call, so this one is new.
      cases conn with
      | disabled hc =>
        rw [Action.calls_eq (hcalls.trans (List.append_nil _).symm)] at h
        cases h
      | @refused fault world hc hw =>
        rw [Action.calls_eq (hcalls.trans (Conversation.calls_append _ _ _ _))] at h
        have hfault : error = fault := by simpa using h
        subst hfault
        exact ⟨rfl, hclient⟩
    -- Where the session is open, no call for one has failed.
    | admitted conn stays =>
      obtain ⟨made, hmade, hnone⟩ := stays.calls
      cases conn with
      | ready hc =>
        rw [Action.calls_eq hmade] at h
        cases hnone _ h
      | opened hc hw =>
        rw [Conversation.calls_append, List.append_assoc] at hmade
        rw [Action.calls_eq hmade] at h
        have hmem : (Call.connect (.error error) : Call Prepared) ∈ made := by simpa using h
        cases hnone _ hmem

end Command

theorem Client.isConnected_iff {c : Client Prepared} :
    c.isConnected = true ↔ c.connection = .ready := by
  simp [isConnected]

/-! ## Scripts -/

namespace Conversation

variable {c : Conversation World Prepared}

/-- No script changes what has become of the session. -/
theorem connection_play (db : Backend World Prepared) (script : List (Move World)) :
    ∀ c : Conversation World Prepared, c.client.connection ≠ .idle →
      (play db script c).2.client.connection = c.client.connection := by
  induction script with
  | nil => exact fun c h => rfl
  | cons move rest ih =>
    intro c h
    cases move with
    | command command =>
      have hcommand := command.connection_carryOut db h
      exact (ih _ (hcommand ▸ h)).trans hcommand
    | drift change => exact ih { c with world := change c.world } h

theorem isConnected_play (db : Backend World Prepared) (h : c.client.isConnected = true)
    (script : List (Move World)) : (play db script c).2.client.isConnected = true := by
  rw [Client.isConnected_iff] at h ⊢
  rw [connection_play db script c (by simp [h]), h]

/-- Whatever needs the session after it was refused, and whatever comes in between. -/
theorem carryOut_play_of_failed (db : Backend World Prepared) {message : String}
    (h : c.client.connection = .failed message) (script : List (Move World)) {command : Command}
    (hop : command.isOperation = true) :
    let c' := (play db script c).2
    ((command.carryOut db).runOn c').1 = .error (.connect message) ∧
      ((command.carryOut db).runOn c').2.client = c'.client ∧
      (command.carryOut db).calls c' = [] := by
  have hstays := connection_play db script c (by simp [h])
  exact command.carryOut_of_failed db hop (hstays.trans h)

end Conversation

/-! ## Runs -/

/-- The calls of a client, by what has become of its session. -/
inductive SessionCalls : Connection → List (Call Prepared) → Prop
  /-- Nothing has been called for. -/
  | idle : SessionCalls .idle []
  /-- The session was opened first. -/
  | ready {rest : List (Call Prepared)} (h : ∀ call ∈ rest, call.isConnect = false) :
    SessionCalls .ready (.connect (.ok ()) :: rest)
  /-- It could not be opened, and that was all. -/
  | failed (error : Error) : SessionCalls (.failed error.connectMessage) [.connect (.error error)]

namespace SessionCalls

variable {c c₁ c' : Conversation World Prepared} {connection : Connection}
  {calls : List (Call Prepared)}

theorem idle_iff (h : SessionCalls connection calls) : connection = .idle ↔ calls = [] := by
  cases h <;> simp

theorem connects {r : Except Error Unit} (conn : Client.Connects db c r c')
    (h : SessionCalls c.client.connection c.calls) :
    SessionCalls c'.client.connection c'.calls := by
  cases conn with
  | ready hc | disabled hc => exact h
  | opened hc hw =>
    rw [Conversation.calls_append, h.idle_iff.mp hc]
    exact .ready (by simp)
  | refused hc hw =>
    rw [Conversation.calls_append, h.idle_iff.mp hc]
    exact .failed _

/-- Behind the session there may be any calls but those for a session. -/
theorem stays (stays : Client.Stays c c') (hready : c.client.connection = .ready)
    (h : SessionCalls c.client.connection c.calls) :
    SessionCalls c'.client.connection c'.calls := by
  obtain ⟨made, hmade, hnone⟩ := stays.calls
  rw [stays.connection_eq, hmade]
  rw [hready] at h ⊢
  generalize c.calls = calls at h
  cases h with
  | ready hrest => exact .ready (List.forall_mem_append.mpr ⟨hrest, hnone⟩)

/-- A command leaves calls as they were, or it sees to the session. -/
theorem act (command : Command) (h : SessionCalls c.client.connection c.calls) :
    SessionCalls ((command.act db).runOn c).2.client.connection
        ((command.act db).runOn c).2.calls ∧
      (((command.act db).runOn c).2.client.connection = .idle ↔
        c.client.connection = .idle ∧ command.isOperation = false) := by
  rw [command.runOn_act_snd]
  cases hop : command.isOperation with
  | false =>
    obtain ⟨hcalls, hconnection⟩ := Command.calls_eq_of_not_isOperation db hop c
    rw [hcalls, hconnection]
    exact ⟨h, by simp⟩
  | true =>
    have hadmits := command.admits db hop c
    generalize ((command.carryOut db).runOn c).1 = r at hadmits
    cases hadmits with
    | barred conn hclient hcalls =>
      rw [hclient, hcalls]
      refine ⟨h.connects conn, ?_⟩
      cases conn with
      | disabled hc => simp [hc]
      | refused hc hw => simp
    | admitted conn stays =>
      have hready := conn.connection_eq
      refine ⟨(h.connects conn).stays stays hready, ?_⟩
      rw [stays.connection_eq, hready]
      simp

theorem run {history : List Entry} (run : Run db history c) :
    SessionCalls c.client.connection c.calls ∧
      (c.client.connection = .idle ↔ ∀ entry ∈ history, entry.command.isOperation = false) := by
  -- The state of the session tells the calls; it stays `idle` as long as no command needs it.
  induction run with
  | start config uuids world => exact ⟨.idle, by simp [Client.new]⟩
  | drift run world ih => exact ih
  | step run command ih =>
    obtain ⟨hcalls, hidle⟩ := ih.1.act command
    refine ⟨hcalls, ?_⟩
    rw [hidle, ih.2, List.forall_mem_append]
    simp

/-! What these calls tell. -/

theorem countP_isConnect_le (h : SessionCalls connection calls) :
    calls.countP Call.isConnect ≤ 1 := by
  cases h with
  | idle => simp
  | ready hrest =>
    have hnone := List.countP_eq_zero.mpr fun call hcall => Bool.not_eq_true _ ▸ hrest call hcall
    rw [List.countP_cons, hnone]
    exact Nat.le_of_eq rfl
  | failed error => exact Nat.le_of_eq rfl

theorem ready_iff (h : SessionCalls connection calls) :
    connection = .ready ↔ .connect (.ok ()) ∈ calls := by
  cases h with
  | idle => simp
  | ready hrest => simp
  | failed error => simp

theorem failed_iff (h : SessionCalls connection calls) (message : String) :
    connection = .failed message ↔
      ∃ error, .connect (.error error) ∈ calls ∧ error.connectMessage = message := by
  cases h with
  | idle => simp
  | ready hrest =>
    have hnone (error : Error) : (Call.connect (.error error) : Call Prepared) ∉ _ :=
      fun hmem => nomatch hrest _ hmem
    simp [hnone]
  | failed error => simp

/-- Every other call comes after the session was opened. -/
theorem opened_before (h : SessionCalls connection calls) {before after : List (Call Prepared)}
    {call : Call Prepared} (hcalls : calls = before ++ call :: after)
    (hcall : call.isConnect = false) : .connect (.ok ()) ∈ before := by
  cases h with
  | idle => simp at hcalls
  | ready hrest =>
    cases before with
    | nil =>
      cases hcalls
      cases hcall
    | cons first rest =>
      cases hcalls
      simp
  | failed error =>
    cases before with
    | nil =>
      cases hcalls
      cases hcall
    | cons first rest => simp at hcalls

end SessionCalls

/-- **The session of a client is asked for once and then settled.** In every state of a run, it has
been asked for at most once, and exactly when there has been an operation or a statement written by
hand; any other call came after it was opened. It cannot have been opened and refused both; the
client is connected exactly when it was opened, and stays so whatever is done; and it remembers the
message of a refusal exactly when it was refused. A command that asks for it in vain fails with the
message and changes nothing else in the client. From then on, whatever comes in between, whatever
needs the session fails with the same message, changes nothing and calls for nothing. -/
theorem Run.session_settled {history : List Entry} {c : Conversation World Prepared}
    (run : Run db history c) :
    c.calls.countP Call.isConnect ≤ 1 ∧
    (c.calls = [] ↔ ∀ entry ∈ history, entry.command.isOperation = false) ∧
    (∀ before call after, c.calls = before ++ call :: after → call.isConnect = false →
      .connect (.ok ()) ∈ before) ∧
    (.connect (.ok ()) ∈ c.calls → ∀ error, .connect (.error error) ∉ c.calls) ∧
    (c.client.isConnected = true ↔ .connect (.ok ()) ∈ c.calls) ∧
    (∀ message, c.client.connection = .failed message ↔
      ∃ error, .connect (.error error) ∈ c.calls ∧ error.connectMessage = message) ∧
    (c.client.isConnected = true → ∀ script : List (Move World),
      (Conversation.play db script c).2.client.isConnected = true) ∧
    (∀ (command : Command) error, .connect (.error error) ∈ (command.carryOut db).calls c →
      ((command.carryOut db).runOn c).1 = .error (.connect error.connectMessage) ∧
      ((command.carryOut db).runOn c).2.client =
        { c.client with connection := .failed error.connectMessage }) ∧
    (∀ error, .connect (.error error) ∈ c.calls → ∀ script : List (Move World),
      let c' := (Conversation.play db script c).2
      ∀ command : Command, command.isOperation = true →
        ((command.carryOut db).runOn c').1 = .error (.connect error.connectMessage) ∧
        ((command.carryOut db).runOn c').2.client = c'.client ∧
        (command.carryOut db).calls c' = []) := by
  obtain ⟨hcalls, hidle⟩ := SessionCalls.run run
  refine ⟨hcalls.countP_isConnect_le, ?_, ?_, ?_, ?_, hcalls.failed_iff, ?_, ?_, ?_⟩
  · rw [← hcalls.idle_iff, hidle]
  · intro before call after heq hcall
    exact hcalls.opened_before heq hcall
  · intro hopened error hrefused
    have hready := hcalls.ready_iff.mpr hopened
    have hfailed := (hcalls.failed_iff _).mpr ⟨error, hrefused, rfl⟩
    cases hready.symm.trans hfailed
  · rw [Client.isConnected_iff, hcalls.ready_iff]
  · intro h script
    exact Conversation.isConnected_play db h script
  · intro command error h
    exact command.carryOut_of_refused h
  · intro error h script c' command hop
    have hfailed := (hcalls.failed_iff _).mpr ⟨error, h, rfl⟩
    exact Conversation.carryOut_play_of_failed db hfailed script hop

/-- A session that is refused once is not asked for again when it could be had: the statement that
comes later fails with the wording of the refusal, and the conditions are those of the caller. -/
theorem Run.session_settled_refused :
    let world : Memory := { connectFailure := some (.notFound "no route") }
    let c := (((Command.rawQuery "a").act Memory.backend).runOn (.fresh {} world)).2
    let script : List (Move Memory) :=
      [.command (.filter (.equal "id" (.int 7))), .drift Memory.clearFailures,
        .command (.compile (.delete "users" none))]
    let c' := (Conversation.play Memory.backend script c).2
    Run Memory.backend [⟨.rawQuery "a", .error (.connect "Not found: no route")⟩] c ∧
      c.client.stats = {} ∧
      ((Client.delete Memory.backend "users" none).runOn c').1 =
        .error (.connect "Not found: no route") ∧
      ((Client.delete Memory.backend "users" none).runOn c').2.client.pending =
        [{ field := "id", condition := .eq (.int 7) }] ∧
      (Client.delete Memory.backend "users" none).calls c' = [] := by
  intro world c script c'
  have run : Run Memory.backend [⟨.rawQuery "a", .error (.connect "Not found: no route")⟩] c :=
    (Run.start {} default world).step (.rawQuery "a")
  have hcalls : c.calls = [.connect (.error (.notFound "no route"))] := by rfl
  obtain ⟨-, -, -, -, -, -, -, -, hlater⟩ := Run.session_settled run
  obtain ⟨herror, hclient, hnone⟩ := hlater (.notFound "no route") (by simp [hcalls]) script
    (.finish (.delete "users" none)) rfl
  exact ⟨run, rfl, herror, congrArg Client.pending hclient, hnone⟩

end WideColumn
