import WideColumn.Client.Request

/-! # Veiled values

Statements and their parts with every value covered up. What is left is all that the text of a
statement, the keys of its values and the number of them are made of. Only a value in the text
itself is left as it is, since it is not bound: it is part of the statement. -/

namespace WideColumn

/-! ## Covering up values -/

/-- As many values, covered up. -/
def Value.veil (values : List Value) : List Value := values.map fun _ => .null

/-- A condition with its values covered up. -/
def Condition.veiled : Condition → Condition
  | raw => raw
  | eq _ => eq .null
  | compare operator _ => compare operator .null
  | member negated values => member negated (Value.veil values)
  | between negated _ _ => between negated .null .null

/-- A predicate with its values covered up. -/
def Predicate.veiled (p : Predicate) : Predicate := { p with condition := p.condition.veiled }

/-- A chain with its values covered up. -/
def Chain.veiled (chain : Chain) : Chain :=
  { chain with predicates := chain.predicates.map Predicate.veiled }

/-- An assignment with its bound values covered up. -/
def Assignment.veiled : Assignment → Assignment
  | value _ => value .null
  | rawWith literal params => rawWith literal (Value.veil params)
  | increment fragment => increment fragment
  | raw literal => raw literal
  | coalesce literal => coalesce literal

/-- A payload with its bound values covered up. -/
def Payload.veiled (p : Payload) : Payload :=
  ⟨p.entries.map fun entry => (entry.1, entry.2.veiled)⟩

/-- A statement with its bound values covered up. -/
def Statement.veiled (s : Statement) : Statement :=
  { s with
    payload := s.payload.map Payload.veiled, predicates := s.predicates.map Predicate.veiled }

/-- A bound value covered up. -/
def Bind.veiled (b : Bind) : Bind := { b with value := .null }

/-- Bound values covered up, under their keys. -/
def BindParams.veiled (ps : BindParams) : BindParams :=
  ⟨ps.params.map fun p => { p with bind := p.bind.veiled }⟩

/-- A compiled statement with its values covered up. -/
def Query.veiled (q : Query) : Query := { q with params := q.params.veiled }

/-- A request with its bound values covered up. -/
def Request.veiled : Request → Request
  | select table limit columns => select table limit columns
  | insert table payload => insert table payload.veiled
  | update table payload => update table payload.veiled
  | delete table limit => delete table limit

/-! ## Text -/

@[simp] theorem Condition.text_veiled (c : Condition) : c.veiled.text = c.text := by
  cases c with
  | raw | eq value | compare operator value | between negated low high => rfl
  | member negated values =>
    rw [veiled, text, text, Value.veil, List.map_map]
    rfl

@[simp] theorem Predicate.text_veiled (word : String) (p : Predicate) :
    p.veiled.text word = p.text word := by
  simp [veiled, text]

theorem whereText_veiled (predicates : List Predicate) :
    whereText (predicates.map Predicate.veiled) = whereText predicates := by
  cases predicates with
  | nil => rfl
  | cons p rest =>
    have hconnector (q : Predicate) : q.veiled.connector = q.connector := rfl
    simp [whereText, Function.comp_def, hconnector]

@[simp] theorem Assignment.text_veiled (column : String) (a : Assignment) :
    a.veiled.text column = a.text column := by
  cases a with
  | value v | increment fragment | raw literal | rawWith literal params | coalesce literal => rfl

theorem Payload.text_veiled (p : Payload) (operation : Operation) :
    p.veiled.text operation = p.text operation := by
  have hcolumns : p.veiled.columns = p.columns := by
    simp [columns, veiled, Function.comp_def]
  have hitem (operation : Operation) (entry : String × Assignment) :
      itemText operation (entry.1, entry.2.veiled) = itemText operation entry := by
    cases operation <;> simp [itemText]
  have hitems (operation : Operation) : p.veiled.itemsText operation = p.itemsText operation := by
    simp [itemsText, veiled, Function.comp_def, hitem]
  cases operation <;> simp only [text, hcolumns, hitems]

/-- **The text of a statement has no bound value in it.** -/
theorem Statement.text_veiled (s : Statement) : s.veiled.text = s.text := by
  have hhead : s.veiled.head = s.head := rfl
  have hfull : s.veiled.fullText = s.fullText := by
    rw [fullText, fullText, hhead]
    show s.head ++ _ ++ whereText (s.predicates.map Predicate.veiled) ++ _ = _
    rw [whereText_veiled]
    cases hp : s.payload with
    | none => simp [veiled, hp]
    | some p => simp [veiled, hp, p.text_veiled]
  rw [text, text, hfull]

/-! ## Keys -/

theorem Predicate.binds_veiled (p : Predicate) : p.veiled.binds = p.binds.map Bind.veiled := by
  have hvalues : p.condition.veiled.values = Value.veil p.condition.values := by
    cases p.condition <;> rfl
  rw [binds, binds, List.map_map, veiled, hvalues, Value.veil, List.map_map]
  rfl

theorem Assignment.binds_veiled (column : String) (a : Assignment) :
    a.veiled.binds column = (a.binds column).map Bind.veiled := by
  cases a with
  | value v | increment fragment | raw literal | coalesce literal => rfl
  | rawWith literal params =>
    rw [veiled, binds, binds, Value.veil, List.map_map, List.map_map]
    rfl

theorem Payload.binds_veiled (p : Payload) : p.veiled.binds = p.binds.map Bind.veiled := by
  simp [binds, veiled, List.flatMap_map, List.map_flatMap, Assignment.binds_veiled]

theorem Statement.binds_veiled (s : Statement) : s.veiled.binds = s.binds.map Bind.veiled := by
  cases hp : s.payload with
  | none =>
    simp [binds, veiled, hp, List.flatMap_map, List.map_flatMap, Predicate.binds_veiled]
  | some p =>
    simp [binds, veiled, hp, List.flatMap_map, List.map_flatMap, Predicate.binds_veiled,
      p.binds_veiled]

namespace BindParams

theorem keys_veiled (ps : BindParams) : ps.veiled.keys = ps.keys := by
  simp [keys, veiled, Function.comp_def]

theorem size_veiled (ps : BindParams) : ps.veiled.size = ps.size := List.length_map _

theorem isEmpty_veiled (ps : BindParams) : ps.veiled.isEmpty = ps.isEmpty := List.isEmpty_map

/-- The key of a value depends on its column and the keys before it alone. -/
theorem veiled_push (ps : BindParams) (b : Bind) :
    (ps.push b).veiled = ps.veiled.push b.veiled := by
  have hkey : ps.veiled.nextKey b.veiled.column = ps.nextKey b.column := by
    rw [nextKey, nextKey, keys_veiled]
    rfl
  rw [push, push, hkey]
  simp [veiled]

theorem veiled_ofBinds (binds : List Bind) :
    (ofBinds binds).veiled = ofBinds (binds.map Bind.veiled) := by
  have hfold : ∀ ps : BindParams,
      (binds.foldl push ps).veiled = (binds.map Bind.veiled).foldl push ps.veiled := by
    induction binds with
    | nil => exact fun ps => rfl
    | cons b rest ih =>
      intro ps
      rw [List.map_cons, List.foldl_cons, List.foldl_cons, ih, veiled_push]
  exact hfold empty

end BindParams

/-- **A statement compiles to the same text with the same keys,** whatever its values are. -/
theorem Statement.compile_veiled (s : Statement) : s.veiled.compile = s.compile.veiled := by
  rw [compile, compile, Query.veiled, BindParams.veiled_ofBinds, s.text_veiled, s.binds_veiled]
  rfl

/-- What statements have in common when their values are covered up. -/
theorem Query.eq_of_veiled {q q' : Query} (h : q.veiled = q'.veiled) :
    q.cql = q'.cql ∧ q.params.keys = q'.params.keys ∧ q.params.size = q'.params.size := by
  have hcql : q.veiled.cql = q'.veiled.cql := by rw [h]
  have hparams : q.params.veiled = q'.params.veiled := congrArg Query.params h
  refine ⟨hcql, ?_, ?_⟩
  · rw [← q.params.keys_veiled, hparams, q'.params.keys_veiled]
  · rw [← q.params.size_veiled, hparams, q'.params.size_veiled]

/-! ## Requests -/

theorem Request.table_veiled (request : Request) : request.veiled.table = request.table := by
  cases request <;> rfl

theorem Request.operation_veiled (request : Request) :
    request.veiled.operation = request.operation := by
  cases request <;> rfl

theorem Request.statement_veiled (request : Request) (predicates : List Predicate) :
    request.veiled.statement (predicates.map Predicate.veiled) =
      (request.statement predicates).map Statement.veiled := by
  have hempty (p : Payload) : p.veiled.isEmpty = p.isEmpty := List.isEmpty_map
  cases request with
  | select table limit columns | delete table limit => rfl
  | insert table payload =>
    simp only [veiled, statement, hempty]
    split <;> rfl
  | update table payload =>
    simp only [veiled, statement, hempty]
    split <;> rfl

/-- A client with the values of its conditions covered up. -/
def Client.veiled {Prepared : Type} (c : Client Prepared) : Client Prepared :=
  { c with chain := c.chain.veiled }

theorem Client.compile_veiled {Prepared : Type} (c : Client Prepared) (request : Request) :
    c.veiled.compile request.veiled = (c.compile request).map Query.veiled := by
  have herror : c.veiled.chain.error? = c.chain.error? := rfl
  have hpredicates : c.veiled.chain.predicates = c.chain.predicates.map Predicate.veiled := rfl
  rw [compile, compile, herror, hpredicates, request.statement_veiled]
  cases c.chain.error? with
  | some error => rfl
  | none =>
    cases request.statement c.chain.predicates with
    | error error => rfl
    | ok statement => simp [Except.map, statement.compile_veiled]

end WideColumn
