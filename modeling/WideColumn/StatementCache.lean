/-! # Statement cache
The prepared statements that a client keeps, each under its text, and next to them the texts in the
order of their last use. When there are too many, the one not used for longest goes first. -/

namespace WideColumn

/-- Prepared statements under their texts, and the order in which they were used. -/
structure StatementCache (Prepared : Type) where
  /-- The number of statements to keep. -/
  capacity : Nat
  /-- The statements under their texts. Their order means nothing. -/
  entries : List (String × Prepared) := []
  /-- The texts, the least recently used one first. -/
  recency : List String := []

namespace StatementCache

variable {Prepared : Type}

/-- The texts of the statements, in no order. -/
def texts (c : StatementCache Prepared) : List String := c.entries.map Prod.fst

/-- The number of statements. -/
def size (c : StatementCache Prepared) : Nat := c.entries.length

/-- The statement of a text. -/
def get? (c : StatementCache Prepared) (cql : String) : Option Prepared := c.entries.lookup cql

/-- Entries without that of a text. -/
def without (cql : String) (entries : List (String × Prepared)) : List (String × Prepared) :=
  entries.filter fun entry => entry.1 ≠ cql

theorem map_fst_without (cql : String) (entries : List (String × Prepared)) :
    (without cql entries).map Prod.fst = (entries.map Prod.fst).filter fun text => text ≠ cql := by
  simp [without, List.filter_map, Function.comp_def]

/-- Makes a text the most recently used one, if it is there. -/
def touch (c : StatementCache Prepared) (cql : String) : StatementCache Prepared :=
  if cql ∈ c.recency then { c with recency := c.recency.erase cql ++ [cql] } else c

/-- What is left when entries go, the least recently used one first, until there are no more than a
capacity allows. -/
def trim (capacity : Nat) (entries : List (String × Prepared)) :
    (recency : List String) → StatementCache Prepared
  | [] => { capacity, entries }
  | oldest :: rest =>
    if capacity < entries.length then trim capacity (without oldest entries) rest
    else { capacity, entries, recency := oldest :: rest }

/-- Makes room. A cache without any keeps nothing. -/
def evict (c : StatementCache Prepared) : StatementCache Prepared :=
  if c.capacity = 0 then { c with entries := [], recency := [] }
  else trim c.capacity c.entries c.recency

/-- Keeps a statement as the most recently used one. -/
def insert (c : StatementCache Prepared) (cql : String) (statement : Prepared) :
    StatementCache Prepared :=
  let kept := { c with entries := (cql, statement) :: without cql c.entries }
  if (c.get? cql).isSome then (kept.touch cql).evict
  else { kept with recency := c.recency ++ [cql] }.evict

end StatementCache

end WideColumn
