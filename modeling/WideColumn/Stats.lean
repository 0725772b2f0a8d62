import WideColumn.Statement.Basic

/-! # Statistics
The counts that a client keeps of its work. -/

namespace WideColumn

/-- Counts of what has been done. They are natural numbers: a count goes up by one at a time, so no
run could bring a counter of 64 bits to its end. -/
structure Stats where
  /-- Statements handed to the session. -/
  total : Nat := 0
  /-- Statements that failed to prepare or to execute. -/
  failed : Nat := 0
  select : Nat := 0
  insert : Nat := 0
  update : Nat := 0
  delete : Nat := 0
  /-- Statements written by hand. -/
  raw : Nat := 0
  /-- Statements found among those that are kept. -/
  cacheHits : Nat := 0
  /-- Statements prepared and handed over to be kept. -/
  cacheMisses : Nat := 0
  /-- Attempts to prepare a statement. -/
  prepares : Nat := 0
  /-- Answers of the catalog. -/
  schemaRefreshes : Nat := 0
  deriving DecidableEq

namespace Stats

/-- Counts one more statement; one written by hand has no operation. -/
def countStatement (operation : Option Operation) (s : Stats) : Stats :=
  let s := { s with total := s.total + 1 }
  match operation with
  | some .select => { s with select := s.select + 1 }
  | some .insert => { s with insert := s.insert + 1 }
  | some .update => { s with update := s.update + 1 }
  | some .delete => { s with delete := s.delete + 1 }
  | none => { s with raw := s.raw + 1 }

/-- Counts one more failure. -/
def countFailure (s : Stats) : Stats := { s with failed := s.failed + 1 }

/-- Counts one more statement that was kept. -/
def countHit (s : Stats) : Stats := { s with cacheHits := s.cacheHits + 1 }

/-- Counts one more prepared statement that goes to those that are kept. -/
def countMiss (s : Stats) : Stats := { s with cacheMisses := s.cacheMisses + 1 }

/-- Counts one more attempt to prepare. -/
def countPrepare (s : Stats) : Stats := { s with prepares := s.prepares + 1 }

/-- Counts one more answer of the catalog. -/
def countRefresh (s : Stats) : Stats := { s with schemaRefreshes := s.schemaRefreshes + 1 }

end Stats

end WideColumn
