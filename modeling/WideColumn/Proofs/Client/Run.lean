import WideColumn.Proofs.Client.Commands

/-! # Runs of a client

The runs that come of commands: any commands in any order, over a database that answers as it likes
and may change by itself in between. -/

namespace WideColumn

variable {World Prepared α : Type}

/-! ## Runs -/

/-- A command that has been carried out, and its outcome. -/
structure Entry : Type 1 where
  command : Command
  outcome : Except Error Unit

/-- The runs of a client, with what has been done and the conversation that it led to. The database
may be in another state whenever a command begins. -/
inductive Run (db : Backend World Prepared) : List Entry → Conversation World Prepared → Prop
  /-- A new client. -/
  | start (config : Config) (uuids : UuidSource) (world : World) :
    Run db [] { client := .new config uuids, world }
  /-- The database changes by itself. -/
  | drift {history : List Entry} {c : Conversation World Prepared} (run : Run db history c)
    (world : World) : Run db history { c with world }
  /-- A command is carried out. -/
  | step {history : List Entry} {c : Conversation World Prepared} (run : Run db history c)
    (command : Command) :
    Run db (history ++ [⟨command, ((command.act db).runOn c).1⟩]) ((command.act db).runOn c).2

/-- A new client next to a database in memory. -/
def Conversation.fresh (config : Config) (world : Memory) : Conversation Memory String :=
  { client := .new config default, world }

/-! ## Invariants -/

/-- A property of conversations that every part of a command keeps, whatever the conditions are. -/
structure Invariant (db : Backend World Prepared) (P : Conversation World Prepared → Prop) :
    Prop where
  drift : ∀ {c} (world : World), P c → P { c with world }
  rechain : ∀ {c} (chain : Chain), P c → P { c with client := { c.client with chain } }
  report : ∀ {c} (notice : Notice), P c → P { c with events := c.events ++ [.notice notice] }
  mint : ∀ {c} (count : Nat), P c → P (Client.mintedFor count c)
  connects : ∀ {c r c'}, Client.Connects db c r c' → P c → P c'
  loads : ∀ {table c r c'}, Client.Loads db table c r c' → P c → P c'
  runs : ∀ {operation cql cells c r c'}, Client.Runs db operation cql cells c r c' → P c → P c'

namespace Invariant

variable {db : Backend World Prepared} {P : Conversation World Prepared → Prop}
  {c c' : Conversation World Prepared}

theorem finds (inv : Invariant db P) {request : Request} {r : Except Error Query}
    (h : Client.Finds db request c r c') (hc : P c) : P c' := by
  cases h with
  | unloaded load hp => exact inv.loads load hc
  | uncompiled load h =>
    rcases load with rfl | load
    · exact hc
    · exact inv.loads load hc
  | unbound hs h hp => exact hc
  | loaded load h hp => exact inv.loads load hc

theorem executes (inv : Invariant db P) {request : Request} {r : Except Error ResultSet}
    (h : Client.Executes db request c r c') (hc : P c) : P c' := by
  cases h with
  | unconnected conn => exact inv.connects conn hc
  | unfound conn find => exact inv.finds find (inv.connects conn hc)
  | unbound conn find bind => exact inv.finds find (inv.connects conn hc)
  | ran conn find bind run =>
    exact inv.runs run (inv.mint _ (inv.finds find (inv.connects conn hc)))

theorem queries (inv : Invariant db P) {cql : String} {r : Except Error ResultSet}
    (h : Client.Queries db cql c r c') (hc : P c) : P c' := by
  cases h with
  | unconnected conn => exact inv.connects conn hc
  | ran conn run => exact inv.runs run (inv.connects conn hc)

theorem settled (inv : Invariant db P) (r : Except Error α) (hc : P c) :
    P (Client.settled r c) := by
  cases r with
  | ok result => exact inv.rechain .empty hc
  | error error =>
    simp only [Client.settled]
    split
    · exact inv.report _ hc
    · exact inv.rechain .empty hc

/-- What one command keeps. -/
theorem command (inv : Invariant db P) (command : Command) (hc : P c) :
    P ((command.act db).runOn c).2 := by
  rw [command.runOn_act_snd]
  cases command with
  | filter f =>
    show P { c with client := f.apply c.client }
    rw [f.apply_eq]
    exact inv.rechain _ hc
  | reset => exact inv.rechain .empty hc
  | compile request =>
    rw [Command.runOn_compile]
    exact hc
  | rawQuery cql =>
    obtain ⟨r, h, -⟩ := Client.queries db cql c
    exact inv.queries h hc
  | finish t =>
    show P ((t.carryOut db).runOn c).2
    rw [t.runOn_carryOut_snd, Client.runOn_perform]
    exact inv.settled _ (inv.executes (Client.executes db t.request c) hc)

/-- **What a new client has and every part of a command keeps,** a run never loses. -/
theorem run (inv : Invariant db P)
    (start : ∀ config uuids world, P { client := .new config uuids, world })
    {history : List Entry} (h : Run db history c) : P c := by
  induction h with
  | start config uuids world => exact start config uuids world
  | drift run world ih => exact inv.drift world ih
  | step run command ih => exact inv.command command ih

end Invariant

/-! ## The conditions of a run -/

/-- Whether a command has cleared the chain: a reset, and an operation that succeeded or failed in
any other way than by the session or the connection. -/
def Entry.clears (e : Entry) : Bool :=
  match e.command, e.outcome with
  | .reset, _ => true
  | .finish _, .ok _ => true
  | .finish _, .error error => !(error.isFatal || error.isSessionError)
  | _, _ => false

/-- The calls for conditions since the chain was cleared, one entry later. -/
def Entry.follow (filters : List Filter) (e : Entry) : List Filter :=
  match e.command with
  | .filter f => filters ++ [f]
  | _ => if e.clears then [] else filters

/-- The calls for conditions since the chain was cleared last. -/
def openFilters (history : List Entry) : List Filter := history.foldl Entry.follow []

end WideColumn
