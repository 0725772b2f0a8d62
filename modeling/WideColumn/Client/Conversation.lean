import WideColumn.Backend.Basic
import WideColumn.Client.Basic
import WideColumn.Log

/-! # Conversations
A client and its database at work. Whatever the client says, to the database or to the log, is
recorded in the order in which it was said. -/

namespace WideColumn

/-- Something that a client said. -/
inductive Event (Prepared : Type)
  | call (call : Call Prepared)
  | notice (notice : Notice)

namespace Event

variable {Prepared : Type}

/-- The call that an event is. -/
def call? : Event Prepared → Option (Call Prepared)
  | call c => some c
  | notice _ => none

/-- The report that an event is. -/
def notice? : Event Prepared → Option Notice
  | call _ => none
  | notice n => some n

end Event

/-- A client, its database, and what has been said. -/
structure Conversation (World Prepared : Type) where
  client : Client Prepared
  world : World
  /-- What the client said, the earliest first. -/
  events : List (Event Prepared) := []

namespace Conversation

variable {World Prepared : Type}

/-- The calls in order. -/
def calls (c : Conversation World Prepared) : List (Call Prepared) := c.events.filterMap Event.call?

/-- The reports in order. -/
def notices (c : Conversation World Prepared) : List Notice := c.events.filterMap Event.notice?

end Conversation

/-- A step of a conversation, which may fail and goes on from there even then. -/
abbrev Action (World Prepared α : Type) := ExceptT Error (StateM (Conversation World Prepared)) α

namespace Action

variable {World Prepared α β : Type}

/-- What an action comes to in a conversation, and the conversation after it. -/
def runOn (action : Action World Prepared α) (c : Conversation World Prepared) :
    Except Error α × Conversation World Prepared :=
  action.run.run c

@[simp] theorem runOn_pure (x : α) (c : Conversation World Prepared) :
    (pure x : Action World Prepared α).runOn c = (.ok x, c) := rfl

@[simp] theorem runOn_throw (error : Error) (c : Conversation World Prepared) :
    (throw error : Action World Prepared α).runOn c = (.error error, c) := rfl

/-- An action goes on where the one before it left off, unless that one failed. -/
theorem runOn_bind (x : Action World Prepared α) (f : α → Action World Prepared β)
    (c : Conversation World Prepared) :
    (x >>= f).runOn c =
      match x.runOn c with
      | (.ok a, c) => (f a).runOn c
      | (.error error, c) => (.error error, c) := by
  change (match x c with | (r, s) => (ExceptT.bindCont f r) s) =
    match x c with | (.ok a, c) => (f a).runOn c | (.error error, c) => (.error error, c)
  rcases x c with ⟨_ | _, _⟩ <;> rfl

@[simp] theorem runOn_liftExcept (x : Except Error α) (c : Conversation World Prepared) :
    (liftExcept x : Action World Prepared α).runOn c = (x, c) := by cases x <;> rfl

/-- The client as it is now. -/
def client : Action World Prepared (Client Prepared) := return (← get).client

@[simp] theorem runOn_client (c : Conversation World Prepared) :
    (client : Action World Prepared (Client Prepared)).runOn c = (.ok c.client, c) := rfl

/-- Changes the client. -/
def modifyClient (f : Client Prepared → Client Prepared) : Action World Prepared Unit :=
  modify fun c => { c with client := f c.client }

@[simp] theorem runOn_modifyClient (f : Client Prepared → Client Prepared)
    (c : Conversation World Prepared) :
    (modifyClient f).runOn c = (.ok (), { c with client := f c.client }) := rfl

/-- Reports to the log. -/
def report (notice : Notice) : Action World Prepared Unit :=
  modify fun c => { c with events := c.events ++ [.notice notice] }

@[simp] theorem runOn_report (notice : Notice) (c : Conversation World Prepared) :
    (report notice).runOn c = (.ok (), { c with events := c.events ++ [.notice notice] }) := rfl

/-- Calls the database and hands its outcome on, be it an error or not. -/
def call (step : World → Except Error α × World) (asCall : Except Error α → Call Prepared) :
    Action World Prepared (Except Error α) := do
  let c ← get
  let (outcome, world) := step c.world
  set { c with world, events := c.events ++ [Event.call (asCall outcome)] }
  return outcome

@[simp] theorem runOn_call (step : World → Except Error α × World)
    (asCall : Except Error α → Call Prepared) (c : Conversation World Prepared) :
    (call step asCall).runOn c =
      (.ok (step c.world).1,
        { c with
          world := (step c.world).2
          events := c.events ++ [.call (asCall (step c.world).1)] }) := rfl

/-- What an action comes to, be it an error or not. -/
def outcome (action : Action World Prepared α) : Action World Prepared (Except Error α) :=
  ExceptT.lift action.run

@[simp] theorem runOn_outcome (action : Action World Prepared α) (c : Conversation World Prepared) :
    action.outcome.runOn c = (.ok (action.runOn c).1, (action.runOn c).2) := rfl

end Action

end WideColumn
