import WideColumn.Chain
import WideColumn.Config
import WideColumn.StatementCache
import WideColumn.Stats

/-! # Clients
What a client knows between two operations, and the conditions that it collects for the next one. -/

namespace WideColumn

/-- The state of a client's session. An open session and the message of a failed attempt are one
type, since a client never has both: an attempt is made only where there is neither. The session
itself is not part of the state; its calls are those of the database. -/
inductive Connection
  /-- Nothing has been tried yet. -/
  | idle
  /-- The session is open. -/
  | ready
  /-- The session could not be opened, which is not tried again. -/
  | failed (message : String)
  deriving DecidableEq

/-- A client. It serves one chain of conditions at a time. -/
structure Client (Prepared : Type) where
  config : Config
  /-- The supply of fresh identifiers. -/
  uuids : UuidSource
  /-- How much of the supply has been used. -/
  minted : Nat := 0
  connection : Connection := .idle
  schemas : SchemaCache := {}
  chain : Chain := .empty
  /-- The prepared statements that are kept, if any are to be. -/
  statements : Option (StatementCache Prepared)
  stats : Stats := {}

namespace Client

variable {Prepared : Type}

/-- A client that has done nothing. -/
def new (config : Config) (uuids : UuidSource) : Client Prepared :=
  { config, uuids
    statements := if config.cacheEnabled then some { capacity := config.cacheCapacity } else none }

/-- Whether the session is open. -/
def isConnected (c : Client Prepared) : Bool := c.connection == .ready

/-- The number of prepared statements that are kept. -/
def cachedStatements (c : Client Prepared) : Nat := (c.statements.map StatementCache.size).getD 0

/-- The schema that is kept, if it is that of a table. -/
def cachedSchema (c : Client Prepared) (table : String) : Option Schema := c.schemas.get? table

/-- The conditions for the next request. -/
def pending (c : Client Prepared) : List Predicate := c.chain.predicates

/-! ## Conditions -/

/-- Adds a condition, joined by AND. -/
def whereCondition (c : Client Prepared) (field : String) (condition : Condition) :
    Client Prepared :=
  { c with chain := c.chain.push { field, condition } }

/-- Adds equality with a value. Null adds the field as it stands. -/
def whereEqual (c : Client Prepared) (field : String) (value : Value) : Client Prepared :=
  c.whereCondition field (.equal value)

/-- Adds the condition of an operator in words. If there is none, the next request fails. -/
def whereOperator (c : Client Prepared) (field operator : String) (operand : Operand) :
    Client Prepared :=
  { c with chain := c.chain.pushOperator field operator operand }

/-- Adds membership in a list. -/
def whereIn (c : Client Prepared) (field : String) (values : List Value) : Client Prepared :=
  c.whereCondition field (.member false values)

/-- Adds the negation of membership in a list. -/
def whereNotIn (c : Client Prepared) (field : String) (values : List Value) : Client Prepared :=
  c.whereCondition field (.member true values)

/-- Adds a range with both ends in it. -/
def whereBetween (c : Client Prepared) (field : String) (low high : Value) : Client Prepared :=
  c.whereCondition field (.between false low high)

/-- Adds the negation of a range. -/
def whereNotBetween (c : Client Prepared) (field : String) (low high : Value) : Client Prepared :=
  c.whereCondition field (.between true low high)

/-- Adds a text as it is. -/
def whereRaw (c : Client Prepared) (fragment : String) : Client Prepared :=
  c.whereCondition fragment .raw

/-- Drops the conditions, and the fault if there is one. -/
def reset (c : Client Prepared) : Client Prepared := { c with chain := .empty }

end Client

end WideColumn
