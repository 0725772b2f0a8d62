import WideColumn.Backend.Memory
import WideColumn.Proofs.Client.Execution

/-! # Commands

What callers can do with a client, command by command, and what it returns. An operation is its
request and a reading of the result of the request, which makes no calls and leaves everything as it
is. What is said about operations and commands without their results is derived from this. -/

namespace WideColumn

variable {World Prepared : Type}

/-! ## Commands -/

/-- A call that adds a condition to the chain. -/
inductive Filter
  | condition (field : String) (condition : Condition)
  | equal (field : String) (value : Value)
  | operator (field operator : String) (operand : Operand)
  | member (field : String) (values : List Value)
  | notMember (field : String) (values : List Value)
  | between (field : String) (low high : Value)
  | notBetween (field : String) (low high : Value)
  | raw (fragment : String)

/-- An operation that ends a chain. -/
inductive Terminal : Type 1
  | get (table : String) (limit : Option Limit) (columns : List String)
  | getOne (table : String) (columns : List String)
  | getOneStrict (table : String) (columns : List String)
  /-- The rows are read as elements of a type. -/
  | getAs {α : Type} (reading : OfRow α) (table : String) (limit : Option Limit)
    (columns : List String)
  | insert (table : String) (payload : Payload)
  | update (table : String) (payload : Payload)
  | delete (table : String) (limit : Option Limit)

/-- What a caller does with a client. -/
inductive Command : Type 1
  | filter (filter : Filter)
  | reset
  /-- Compiles a request without running it. -/
  | compile (request : Request)
  | rawQuery (cql : String)
  | finish (terminal : Terminal)

/-! ## Adding conditions -/

namespace Filter

/-- A client with one more condition. -/
def apply (c : Client Prepared) : Filter → Client Prepared
  | condition field made => c.whereCondition field made
  | equal field value => c.whereEqual field value
  | operator field word operand => c.whereOperator field word operand
  | member field values => c.whereIn field values
  | notMember field values => c.whereNotIn field values
  | between field low high => c.whereBetween field low high
  | notBetween field low high => c.whereNotBetween field low high
  | raw fragment => c.whereRaw fragment

/-- A call for a condition touches nothing but the chain. -/
theorem apply_eq (f : Filter) (c : Client Prepared) :
    f.apply c = { c with chain := (f.apply c).chain } := by
  cases f with
  | operator field word operand =>
    -- Whether the operator is a good one does not matter here.
    rw [apply, Client.whereOperator]
  | _ => rfl

/-- The condition that a call asks for, or why there is none. Only an operator in words can be
wrong. -/
def build : Filter → Except Operator.Fault Predicate
  | condition field made => .ok { field, condition := made }
  | equal field value => .ok { field, condition := .equal value }
  | operator field word operand =>
    (Operator.condition word operand).map fun made => { field, condition := made }
  | member field values => .ok { field, condition := .member false values }
  | notMember field values => .ok { field, condition := .member true values }
  | between field low high => .ok { field, condition := .between false low high }
  | notBetween field low high => .ok { field, condition := .between true low high }
  | raw fragment => .ok { field := fragment, condition := .raw }

/-- Whether the condition could be built. -/
def Valid (f : Filter) : Prop := ∃ predicate, f.build = .ok predicate

/-- The conditions that could be built, in the order of the calls. -/
def built (filters : List Filter) : List Predicate := filters.filterMap fun f => f.build.toOption

/-- The first condition that could not be built. -/
def firstFault? : List Filter → Option Operator.Fault
  | [] => none
  | f :: rest =>
    match f.build with
    | .ok _ => firstFault? rest
    | .error fault => some fault

end Filter

/-! ## Reading rows -/

namespace Client

theorem config_settled {α : Type} (r : Except Error α) (c : Conversation World Prepared) :
    (settled r c).client.config = c.client.config := by
  cases r with
  | ok result => rfl
  | error error =>
    simp only [settled]
    split <;> rfl

variable (db : Backend World Prepared) (table : String) (columns : List String)
  (c : Conversation World Prepared)

theorem runOn_get (limit : Option Limit) :
    (get db table limit columns).runOn c =
      match (perform db (.select table limit columns)).runOn c with
      | (.ok result, c') => (.ok (result.extract c'.client.config.autoConvert), c')
      | (.error error, c') => (.error error, c') := by
  rw [get, Action.runOn_bind]
  rcases (perform db (.select table limit columns)).runOn c with ⟨error | result, c'⟩ <;> rfl

theorem runOn_getOne :
    (getOne db table columns).runOn c =
      match (perform db (.select table (some (.count 1)) columns)).runOn c with
      | (.ok result, c') => (.ok (result.extract c'.client.config.autoConvert).head?, c')
      | (.error error, c') => (.error error, c') := by
  rw [getOne, Action.runOn_bind, runOn_get]
  rcases (perform db (.select table (some (.count 1)) columns)).runOn c with
    ⟨error | result, c'⟩ <;> rfl

theorem runOn_getOneStrict :
    (getOneStrict db table columns).runOn c =
      match (perform db (.select table (some (.count 1)) columns)).runOn c with
      | (.ok result, c') =>
        (match (result.extract c'.client.config.autoConvert).head? with
          | some row => .ok row
          | none => .error (.notFound ("no row in " ++ table)), c')
      | (.error error, c') => (.error error, c') := by
  rw [getOneStrict, Action.runOn_bind, runOn_getOne]
  rcases (perform db (.select table (some (.count 1)) columns)).runOn c with
    ⟨error | result, c'⟩
  · rfl
  · cases h : (result.extract c'.client.config.autoConvert).head? <;> simp [h]

theorem runOn_getAs {α : Type} [reading : OfRow α] (limit : Option Limit) :
    (getAs db table limit columns : Action World Prepared (List α)).runOn c =
      match (perform db (.select table limit columns)).runOn c with
      | (.ok result, c') =>
        ((result.extract c'.client.config.autoConvert).mapM reading.ofRow, c')
      | (.error error, c') => (.error error, c') := by
  rw [getAs, Action.runOn_bind, runOn_get]
  rcases (perform db (.select table limit columns)).runOn c with ⟨error | result, c'⟩
  · rfl
  · exact Action.runOn_liftExcept _ c'

/-- Writing returns nothing besides errors. -/
theorem runOn_write (request : Request) :
    (discard (perform db request)).runOn c =
      match (perform db request).runOn c with
      | (.ok _, c') => (.ok (), c')
      | (.error error, c') => (.error error, c') := by
  rw [Action.runOn_discard]
  rcases (perform db request).runOn c with ⟨error | result, c'⟩ <;> rfl

/-- What a statement written by hand is said to give. -/
def outcomeOf (result : ResultSet) : Action World Prepared RawOutcome :=
  if result.isVoid then return .applied else return .rows (← rowsOf result)

theorem runOn_outcomeOf (result : ResultSet) :
    (outcomeOf result : Action World Prepared RawOutcome).runOn c =
      (.ok (if result.isVoid then .applied
        else .rows (result.extract c.client.config.autoConvert)), c) := by
  cases h : result.isVoid <;> simp [outcomeOf, rowsOf, h]

theorem runOn_bind_outcomeOf_snd (x : Action World Prepared ResultSet) :
    ((x >>= fun result => outcomeOf result).runOn c).2 = (x.runOn c).2 := by
  rw [Action.runOn_bind]
  rcases x.runOn c with ⟨error | result, c'⟩
  · rfl
  · exact congrArg Prod.snd (runOn_outcomeOf c' result)

theorem rawQuery_eq (cql : String) :
    rawQuery db cql = (do
      connect db
      let result ← runStatement db none cql []
      outcomeOf result) := rfl

end Client

/-! ## Ending a chain -/

namespace Terminal

/-- The request that an operation is carried out by. -/
def request : Terminal → Request
  | get table limit columns => .select table limit columns
  | getOne table columns => .select table (some (.count 1)) columns
  | getOneStrict table columns => .select table (some (.count 1)) columns
  | getAs _ table limit columns => .select table limit columns
  | insert table payload => .insert table payload
  | update table payload => .update table payload
  | delete table limit => .delete table limit

/-- What an operation returns. -/
def Result : Terminal → Type
  | get _ _ _ => List Row
  | getOne _ _ => Option Row
  | getOneStrict _ _ => Row
  | @getAs α _ _ _ _ => List α
  | insert _ _ | update _ _ | delete _ _ => Unit

/-- Carries out an operation. -/
def carryOut (db : Backend World Prepared) : (t : Terminal) → Action World Prepared t.Result
  | get table limit columns => Client.get db table limit columns
  | getOne table columns => Client.getOne db table columns
  | getOneStrict table columns => Client.getOneStrict db table columns
  | @getAs _ reading table limit columns =>
    @Client.getAs World Prepared _ reading db table limit columns
  | insert table payload => Client.insert db table payload
  | update table payload => Client.update db table payload
  | delete table limit => Client.delete db table limit

/-- What an operation reads from the result of its request. -/
def read (autoConvert : Bool) (result : ResultSet) : (t : Terminal) → Except Error t.Result
  | get _ _ _ => .ok (result.extract autoConvert)
  | getOne _ _ => .ok (result.extract autoConvert).head?
  | getOneStrict table _ =>
    match (result.extract autoConvert).head? with
    | some row => .ok row
    | none => .error (.notFound ("no row in " ++ table))
  | getAs reading _ _ _ => (result.extract autoConvert).mapM reading.ofRow
  | insert _ _ | update _ _ | delete _ _ => .ok ()

/-- **An operation is its request and a reading of the result,** which comes after the conditions
have been settled. -/
theorem runOn_carryOut (db : Backend World Prepared) (t : Terminal)
    (c : Conversation World Prepared) :
    (t.carryOut db).runOn c =
      match (Client.perform db t.request).runOn c with
      | (.ok result, c') => (t.read c'.client.config.autoConvert result, c')
      | (.error error, c') => (.error error, c') := by
  cases t with
  | get table limit columns => exact Client.runOn_get db table columns c limit
  | getOne table columns => exact Client.runOn_getOne db table columns c
  | getOneStrict table columns => exact Client.runOn_getOneStrict db table columns c
  | getAs reading table limit columns => exact Client.runOn_getAs db table columns c limit
  | insert table payload => exact Client.runOn_write db c (.insert table payload)
  | update table payload => exact Client.runOn_write db c (.update table payload)
  | delete table limit => exact Client.runOn_write db c (.delete table limit)

theorem runOn_carryOut_snd (db : Backend World Prepared) (t : Terminal)
    (c : Conversation World Prepared) :
    ((t.carryOut db).runOn c).2 = ((Client.perform db t.request).runOn c).2 := by
  rw [runOn_carryOut]
  rcases (Client.perform db t.request).runOn c with ⟨_ | _, _⟩ <;> rfl

/-- An operation reads from the result of its request as its client is set up to. -/
theorem runOn_carryOut_fst (db : Backend World Prepared) (t : Terminal)
    (c : Conversation World Prepared) :
    ((t.carryOut db).runOn c).1 =
      ((Client.execute db t.request).runOn c).1.bind (t.read c.client.config.autoConvert) := by
  have hconfig : ((Client.perform db t.request).runOn c).2.client.config = c.client.config := by
    obtain ⟨connection, schemas, minted, statements, stats, hclient⟩ :=
      (Client.executes db t.request c).client_eq
    rw [Client.runOn_perform, Client.config_settled, hclient]
  rw [runOn_carryOut]
  rw [Client.runOn_perform] at hconfig ⊢
  generalize (Client.execute db t.request).runOn c = run at hconfig ⊢
  obtain ⟨error | result, c'⟩ := run
  · rfl
  · exact congrArg (t.read ·.autoConvert result) hconfig

/-- Carries out an operation. What it returns besides errors is left out. -/
def act (db : Backend World Prepared) (t : Terminal) : Action World Prepared Unit :=
  discard (t.carryOut db)

/-- What an operation makes of the result of its request: a row may be missing or unreadable. -/
def finish (autoConvert : Bool) (result : ResultSet) (t : Terminal) : Except Error Unit :=
  (t.read autoConvert result).map fun _ => ()

/-- **Without its results,** an operation is its request and whether the result could be read. -/
theorem runOn_act (db : Backend World Prepared) (t : Terminal)
    (c : Conversation World Prepared) :
    (t.act db).runOn c =
      match (Client.perform db t.request).runOn c with
      | (.ok result, c') => (t.finish c'.client.config.autoConvert result, c')
      | (.error error, c') => (.error error, c') := by
  rw [act, Action.runOn_discard, runOn_carryOut]
  rcases (Client.perform db t.request).runOn c with ⟨error | result, c'⟩ <;> rfl

theorem runOn_act_snd (db : Backend World Prepared) (t : Terminal)
    (c : Conversation World Prepared) :
    ((t.act db).runOn c).2 = ((Client.perform db t.request).runOn c).2 := by
  rw [act, Action.runOn_discard, runOn_carryOut_snd]

theorem calls_act (db : Backend World Prepared) (t : Terminal)
    (c : Conversation World Prepared) : (t.act db).calls c = (t.carryOut db).calls c :=
  Action.calls_discard _ c

/-- An operation makes the calls of its request. -/
theorem continues (db : Backend World Prepared) (t : Terminal) (c : Conversation World Prepared) :
    Continues c ((t.act db).calls c) ((Client.execute db t.request).runOn c).1
      ((Client.execute db t.request).runOn c).2 := by
  obtain ⟨made, hmade, -⟩ := (Client.executes db t.request c).continues
  have hcalls : (t.act db).calls c = made := by
    apply Action.calls_eq
    rw [t.runOn_act_snd, Client.runOn_perform, Client.calls_settled]
    exact hmade.calls_eq
  rw [hcalls]
  exact hmade

/-- A call that failed decides how an operation ends and whether the conditions stay. -/
theorem act_of_surfaced {db : Backend World Prepared} {t : Terminal}
    {c : Conversation World Prepared} {call : Call Prepared} (h : call ∈ (t.act db).calls c)
    {error : Error} (herror : call.surfaced? = some error) :
    ((t.act db).runOn c).1 = .error error ∧
      ((t.act db).runOn c).2.client.chain =
        if error.isFatal || error.isSessionError then c.client.chain else .empty := by
  have hr := (t.continues db c).surfaces call h error herror
  rw [t.runOn_act, Client.runOn_perform, hr]
  refine ⟨rfl, ?_⟩
  show (Client.settled _ _).client.chain = _
  rw [Client.chain_settled, (Client.executes db t.request c).chain_eq]

/-- The only statement that an operation hands to the session is the one it compiles to. -/
theorem compile_of_mem_calls {db : Backend World Prepared} {t : Terminal}
    {c : Conversation World Prepared} {call : Call Prepared} (h : call ∈ (t.act db).calls c)
    {cql : String} (hcql : call.cql? = some cql) :
    ∃ query, c.client.compile t.request = .ok query ∧ query.cql = cql := by
  obtain ⟨made, hmade, hcompile⟩ := (Client.executes db t.request c).continues
  rw [hmade.made_eq (t.continues db c).calls_eq] at h
  exact hcompile call h cql hcql

/-- Whether rows that cannot be read are all that reading them can fail with. -/
def ReadsByDecoding : Terminal → Prop
  | getAs reading _ _ _ =>
    ∀ row error, reading.ofRow row = .error error → ∃ column message, error = .decode column message
  | get _ _ _ | getOne _ _ | getOneStrict _ _ | insert _ _ | update _ _ | delete _ _ => True

end Terminal

/-! ## Carrying out commands -/

namespace Command

/-- What a command returns. -/
def Result : Command → Type
  | filter _ | reset => Unit
  | compile _ => Query
  | rawQuery _ => RawOutcome
  | finish t => t.Result

/-- Carries out a command. -/
def carryOut (db : Backend World Prepared) : (command : Command) →
    Action World Prepared command.Result
  | filter f => Action.modifyClient f.apply
  | reset => Action.modifyClient Client.reset
  | compile request => do liftExcept ((← Action.client).compile request)
  | rawQuery cql => Client.rawQuery db cql
  | finish t => t.carryOut db

/-- Carries out a command. What it returns besides errors is left out. -/
def act (db : Backend World Prepared) (command : Command) : Action World Prepared Unit :=
  discard (command.carryOut db)

theorem runOn_act_snd (db : Backend World Prepared) (command : Command)
    (c : Conversation World Prepared) :
    ((command.act db).runOn c).2 = ((command.carryOut db).runOn c).2 := by
  rw [act, Action.runOn_discard]

theorem runOn_compile (db : Backend World Prepared) (request : Request)
    (c : Conversation World Prepared) :
    ((compile request).carryOut db).runOn c = (c.client.compile request, c) :=
  Action.runOn_liftExcept _ c

end Command

end WideColumn
