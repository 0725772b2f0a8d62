import WideColumn.Client.Basic
import WideColumn.Statement.Compile

/-! # Requests
What a client can be asked to do with its conditions, and the statement that this takes. -/

namespace WideColumn

/-- Something to be done with a table. -/
inductive Request
  /-- Read rows; no columns stand for all of them. -/
  | select (table : String) (limit : Option Limit) (columns : List String)
  /-- Write a row. The conditions play no part in it. -/
  | insert (table : String) (payload : Payload)
  /-- Change the rows that meet the conditions. -/
  | update (table : String) (payload : Payload)
  /-- Remove the rows that meet the conditions. -/
  | delete (table : String) (limit : Option Limit)
  deriving DecidableEq

namespace Request

/-- The table of a request. -/
def table : Request → String
  | select table _ _ | insert table _ | update table _ | delete table _ => table

/-- The kind of statement that a request takes. -/
def operation : Request → Operation
  | select _ _ _ => .select
  | insert _ _ => .insert
  | update _ _ => .update
  | delete _ _ => .delete

/-- The statement of a request under conditions. There has to be something to write. -/
def statement (predicates : List Predicate) : Request → Except Error Statement
  | select table limit columns => .ok { operation := .select, table, columns, predicates, limit }
  | insert table payload =>
    if payload.isEmpty then .error (.other ("INSERT INTO " ++ table ++ " without values"))
    else .ok { operation := .insert, table, payload := some payload }
  | update table payload =>
    if payload.isEmpty then .error (.other ("UPDATE " ++ table ++ " without assignments"))
    else .ok { operation := .update, table, payload := some payload, predicates }
  | delete table limit => .ok { operation := .delete, table, predicates, limit }

end Request

/-- The statement that a request would run now. A condition that could not be built stands in the
way of every request. -/
def Client.compile {Prepared : Type} (c : Client Prepared) (request : Request) :
    Except Error Query :=
  match c.chain.error? with
  | some error => .error error
  | none => (request.statement c.chain.predicates).map Statement.compile

end WideColumn
