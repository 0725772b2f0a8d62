import WideColumn.Proofs.Text.Placeholder
import WideColumn.Statement.Compile

/-! # Placeholders and bind parameters

A statement written out with its values in place, and the theorem that the compiled text with the
bind parameters comes to the same: every placeholder has its parameter, the parameters stand in the
order of the placeholders, and writing the parameters into the text gives the statement as it is
written out. -/

namespace WideColumn

open Text (Unmarked Aligned)

/-- A way to write values into a text: never as nothing, and without white space. -/
structure Rendering where
  write : Value → String
  ne_empty : ∀ v, write v ≠ ""
  not_blank : ∀ v, ∀ c ∈ (write v).toList, Text.isBlank c = false

instance : Inhabited Rendering where
  default :=
    { write := fun _ => "0"
      ne_empty := fun _ => by simp
      not_blank := fun _ c hc => by
        have hzero : c ∈ ['0'] := by simpa using hc
        rw [List.mem_singleton.mp hzero]
        rfl }

/-! ## Statements written out -/

/-- The right-hand side of an assignment with its values in place. The values of a literal take the
places of its question marks. -/
def Assignment.written (write : Value → String) (column : String) : Assignment → String
  | value v => write v
  | increment fragment => column ++ fragment
  | raw literal => literal
  | rawWith literal params => Text.fill (params.map write) literal
  | coalesce (some literal) => "!" ++ literal
  | coalesce none => "!" ++ column

/-- The item of a column with its values in place. -/
def Payload.itemWritten (write : Value → String) (operation : Operation)
    (entry : String × Assignment) : String :=
  match operation with
  | .update => entry.1 ++ " = " ++ entry.2.written write entry.1
  | _ => entry.2.written write entry.1

/-- A payload with its values in place. -/
def Payload.written (write : Value → String) (p : Payload) (operation : Operation) : String :=
  let items := ", ".intercalate (p.entries.map (itemWritten write operation))
  match operation with
  | .insert => " (" ++ ", ".intercalate p.columns ++ ") VALUES (" ++ items ++ ")"
  | _ => " " ++ items

/-- What a condition adds behind its field, with its values in place. -/
def Condition.written (write : Value → String) : Condition → String
  | raw => ""
  | eq value => " = " ++ write value
  | compare operator value => " " ++ operator ++ " " ++ write value
  | member false values => " IN (" ++ ", ".intercalate (values.map write) ++ ")"
  | member true values => " NOT IN (" ++ ", ".intercalate (values.map write) ++ ")"
  | between false low high => " BETWEEN " ++ write low ++ " AND " ++ write high
  | between true low high => " NOT BETWEEN " ++ write low ++ " AND " ++ write high

/-- A predicate with its values in place, behind a word. -/
def Predicate.written (write : Value → String) (word : String) (p : Predicate) : String :=
  " " ++ word ++ " " ++ p.field ++ p.condition.written write

/-- The WHERE clause of predicates with their values in place. -/
def whereWritten (write : Value → String) : List Predicate → String
  | [] => ""
  | p :: rest =>
    " WHERE" ++ p.written write "" ++
      String.join (rest.map fun q => q.written write q.connector.keyword)

/-- A statement with its values in place, trimmed at its end. -/
def Statement.written (write : Value → String) (s : Statement) : String :=
  let full :=
    s.head ++ (match s.payload with | some p => p.written write s.operation | none => "") ++
      whereWritten write s.predicates ++ (match s.limit with | some l => l.text | none => "")
  String.ofList (Text.trimEnd full.toList)

/-! ## Bound values -/

/-- The values that an assignment binds. -/
def Assignment.boundValues : Assignment → List Value
  | value v => [v]
  | rawWith _ params => params
  | increment _ | raw _ | coalesce _ => []

/-- The values that a statement binds: those of its payload, column by column, and then those of its
predicates. -/
def Statement.boundValues (s : Statement) : List Value :=
  (match s.payload with
    | some p => p.entries.flatMap fun entry => entry.2.boundValues
    | none => []) ++ s.predicates.flatMap fun p => p.condition.values

/-! ## Statements whose own texts bring no placeholders -/

/-- No text of an assignment has a question mark of its own; a literal with values has as many as
these are. -/
def Assignment.WellMarked : Assignment → Prop
  | value _ | coalesce none => True
  | increment text | raw text | coalesce (some text) => Unmarked text
  | rawWith literal params => literal.toList.count '?' = params.length

instance : DecidablePred Assignment.WellMarked
  | .value _ | .coalesce none => isTrue trivial
  | .increment text | .raw text | .coalesce (some text) =>
    inferInstanceAs (Decidable (Unmarked text))
  | .rawWith literal params =>
    inferInstanceAs (Decidable (literal.toList.count '?' = params.length))

/-- The operator of a condition has no question mark. -/
def Condition.WellMarked : Condition → Prop
  | compare operator _ => Unmarked operator
  | raw | eq _ | member _ _ | between _ _ _ => True

instance : DecidablePred Condition.WellMarked
  | .compare operator _ => inferInstanceAs (Decidable (Unmarked operator))
  | .raw | .eq _ | .member _ _ | .between _ _ _ => isTrue trivial

/-- No text of a statement has a question mark of its own, except for those in literals that come
with a value for each. -/
structure Statement.WellMarked (s : Statement) : Prop where
  table : Unmarked s.table
  columns : ∀ column ∈ s.columns, Unmarked column
  payload : ∀ p ∈ s.payload, ∀ entry ∈ p.entries, Unmarked entry.1 ∧ entry.2.WellMarked
  predicates : ∀ p ∈ s.predicates, Unmarked p.field ∧ p.condition.WellMarked

instance (s : Statement) : Decidable s.WellMarked :=
  decidable_of_iff
    (Unmarked s.table ∧ (∀ column ∈ s.columns, Unmarked column) ∧
      (∀ p ∈ s.payload, ∀ entry ∈ p.entries, Unmarked entry.1 ∧ entry.2.WellMarked) ∧
      ∀ p ∈ s.predicates, Unmarked p.field ∧ p.condition.WellMarked)
    ⟨fun ⟨ht, hc, hp, hw⟩ => ⟨ht, hc, hp, hw⟩, fun ⟨ht, hc, hp, hw⟩ => ⟨ht, hc, hp, hw⟩⟩

/-! ## Alignment, part by part -/

theorem unmarked_append {a b : String} (ha : Unmarked a) (hb : Unmarked b) : Unmarked (a ++ b) := by
  intro h
  rw [String.toList_append, List.mem_append] at h
  exact h.elim ha hb

theorem unmarked_intercalate {separator : String} {texts : List String} (hs : Unmarked separator)
    (h : ∀ t ∈ texts, Unmarked t) : Unmarked (separator.intercalate texts) := by
  induction texts with
  | nil => rw [String.intercalate_nil]; decide
  | cons t rest ih =>
    have ht := h t List.mem_cons_self
    cases rest with
    | nil => rwa [String.intercalate_singleton]
    | cons u rest =>
      rw [String.intercalate_cons_cons]
      exact unmarked_append (unmarked_append ht hs) (ih fun v hv => h v (List.mem_cons_of_mem t hv))

/-- Numerals consist of digits. -/
theorem unmarked_ofNat (n : Nat) : Unmarked (Text.ofNat n) := by
  intro h
  rw [Text.ofNat, String.toList_ofList, Text.numeral] at h
  have hdigit := Nat.isDigit_of_mem_toDigits (by decide) (by decide) h
  exact absurd hdigit (by decide)

variable {write : Value → String}

theorem Assignment.aligned {column : String} {a : Assignment} (hc : Unmarked column)
    (ha : a.WellMarked) :
    Aligned write (a.text column) a.boundValues (a.written write column) := by
  cases a with
  | value v => exact Aligned.mark v
  | increment fragment => exact Aligned.of_unmarked (unmarked_append hc ha)
  | raw literal => exact Aligned.of_unmarked ha
  | rawWith literal params => exact Aligned.of_count ha
  | coalesce literal =>
    cases literal with
    | none => exact Aligned.of_unmarked (unmarked_append (by decide) hc)
    | some literal => exact Aligned.of_unmarked (unmarked_append (by decide) ha)

/-- The item of a column binds what its assignment binds, whatever the operation is. -/
theorem Payload.itemAligned (operation : Operation) {entry : String × Assignment}
    (hc : Unmarked entry.1) (ha : entry.2.WellMarked) :
    Aligned write (itemText operation entry) entry.2.boundValues
      (itemWritten write operation entry) := by
  have h : Aligned write (entry.2.text entry.1) entry.2.boundValues
      (entry.2.written write entry.1) := Assignment.aligned hc ha
  cases operation with
  | update => exact h.unmarked_append (unmarked_append hc (by decide))
  | select => exact h
  | insert => exact h
  | delete => exact h

theorem Payload.aligned {p : Payload} (operation : Operation)
    (hp : ∀ entry ∈ p.entries, Unmarked entry.1 ∧ entry.2.WellMarked) :
    Aligned write (p.text operation) (p.entries.flatMap fun entry => entry.2.boundValues)
      (p.written write operation) := by
  have hitems : ∀ operation, Aligned write (p.itemsText operation)
      (p.entries.flatMap fun entry => entry.2.boundValues)
      (", ".intercalate (p.entries.map (itemWritten write operation))) := fun operation =>
    Aligned.intercalate (by decide) fun entry hentry =>
      itemAligned operation (hp entry hentry).1 (hp entry hentry).2
  have hcolumns : Unmarked (", ".intercalate p.columns) := by
    refine unmarked_intercalate (by decide) fun column hcolumn => ?_
    obtain ⟨entry, hentry, rfl⟩ := List.mem_map.mp hcolumn
    exact (hp entry hentry).1
  cases operation with
  | insert =>
    have hhead : Unmarked (" (" ++ ", ".intercalate p.columns ++ ") VALUES (") :=
      unmarked_append (unmarked_append (by decide) hcolumns) (by decide)
    exact ((hitems .insert).unmarked_append hhead).append_unmarked (by decide)
  | select => exact (hitems .select).unmarked_append (by decide)
  | update => exact (hitems .update).unmarked_append (by decide)
  | delete => exact (hitems .delete).unmarked_append (by decide)

theorem Condition.aligned {c : Condition} (hc : c.WellMarked) :
    Aligned write c.text c.values (c.written write) := by
  cases c with
  | raw => exact Aligned.of_unmarked (by decide)
  | eq value => exact (Aligned.mark value).unmarked_append (by decide)
  | compare operator value =>
    exact (Aligned.mark value).unmarked_append
      (unmarked_append (unmarked_append (by decide) hc) (by decide))
  | member negated values =>
    have hlist : Aligned write (", ".intercalate (values.map fun _ => placeholder)) values
        (", ".intercalate (values.map write)) := by
      have h : ∀ v ∈ values, Aligned write placeholder [v] (write v) := fun v _ => Aligned.mark v
      simpa using Aligned.intercalate (by decide : Unmarked ", ") h
    cases negated with
    | false => exact (hlist.unmarked_append (by decide)).append_unmarked (by decide)
    | true => exact (hlist.unmarked_append (by decide)).append_unmarked (by decide)
  | between negated low high =>
    have hrange : ∀ {word}, Unmarked word →
        Aligned write (word ++ placeholder ++ " AND " ++ placeholder) [low, high]
          (word ++ write low ++ " AND " ++ write high) := fun hword =>
      (((Aligned.mark low).unmarked_append hword).append_unmarked (by decide)).append
        (Aligned.mark high)
    cases negated with
    | false => exact hrange (by decide)
    | true => exact hrange (by decide)

theorem Predicate.aligned {word : String} {p : Predicate} (hw : Unmarked word)
    (hf : Unmarked p.field) (hc : p.condition.WellMarked) :
    Aligned write (p.text word) p.condition.values (p.written write word) :=
  (Condition.aligned hc).unmarked_append
    (unmarked_append (unmarked_append (unmarked_append (by decide) hw) (by decide)) hf)

theorem unmarked_keyword (c : Connector) : Unmarked c.keyword := by cases c <;> decide

theorem whereText_aligned {ps : List Predicate}
    (h : ∀ p ∈ ps, Unmarked p.field ∧ p.condition.WellMarked) :
    Aligned write (whereText ps) (ps.flatMap fun p => p.condition.values)
      (whereWritten write ps) := by
  cases ps with
  | nil => exact Aligned.of_unmarked (by decide)
  | cons p rest =>
    obtain ⟨hf, hc⟩ := h p List.mem_cons_self
    have hfirst : Aligned write (p.text "") p.condition.values (p.written write "") :=
      Predicate.aligned (by decide) hf hc
    have hrest : Aligned write (String.join (rest.map fun q => q.text q.connector.keyword))
        (rest.flatMap fun q => q.condition.values)
        (String.join (rest.map fun q => q.written write q.connector.keyword)) :=
      Aligned.join fun q hq =>
        have hq := h q (List.mem_cons_of_mem p hq)
        Predicate.aligned (unmarked_keyword q.connector) hq.1 hq.2
    exact (hfirst.unmarked_append (by decide)).append hrest

theorem Limit.unmarked_text (l : Limit) : Unmarked l.text := by
  cases l with
  | count n => exact unmarked_append (by decide) (unmarked_ofNat _)
  | window offset rows =>
    exact unmarked_append (unmarked_append (unmarked_append (by decide) (unmarked_ofNat _))
      (by decide)) (unmarked_ofNat _)

namespace Statement

theorem WellMarked.unmarked_head {s : Statement} (h : s.WellMarked) : Unmarked s.head := by
  rw [head]
  cases s.operation with
  | select =>
    have hcolumns : Unmarked (if s.columns = [] then "*" else ", ".intercalate s.columns) := by
      split
      · decide
      · exact unmarked_intercalate (by decide) h.columns
    exact unmarked_append (unmarked_append (unmarked_append (by decide) hcolumns) (by decide))
      h.table
  | insert => exact unmarked_append (by decide) h.table
  | update => exact unmarked_append (unmarked_append (by decide) h.table) (by decide)
  | delete => exact unmarked_append (by decide) h.table

/-- **The text of a statement is aligned with its values.** -/
theorem WellMarked.text_aligned {s : Statement} (h : s.WellMarked) (r : Rendering) :
    Aligned r.write s.text s.boundValues (s.written r.write) := by
  have hpayload : Aligned r.write (match s.payload with | some p => p.text s.operation | none => "")
      (match s.payload with
        | some p => p.entries.flatMap fun entry => entry.2.boundValues
        | none => [])
      (match s.payload with | some p => p.written r.write s.operation | none => "") := by
    cases hp : s.payload with
    | none => exact Aligned.of_unmarked (by decide : Unmarked "")
    | some p => exact Payload.aligned s.operation (h.payload p hp)
  have hlimit : Unmarked (match s.limit with | some l => l.text | none => "") := by
    cases s.limit with
    | none => decide
    | some l => exact l.unmarked_text
  have hfull := ((hpayload.unmarked_append h.unmarked_head).append
    (whereText_aligned h.predicates)).append_unmarked hlimit
  exact hfull.trimEnd fun v => ⟨r.ne_empty v, r.not_blank v⟩

end Statement

/-! ## Bind parameters -/

theorem BindParams.values_foldl_push (binds : List Bind) (ps : BindParams) :
    (binds.foldl push ps).values = ps.values ++ binds.map Bind.value := by
  induction binds generalizing ps with
  | nil => rw [List.foldl_nil, List.map_nil, List.append_nil]
  | cons b rest ih =>
    rw [List.foldl_cons, ih, values_push, List.map_cons, List.append_assoc, List.singleton_append]

theorem BindParams.values_ofBinds (binds : List Bind) :
    (ofBinds binds).values = binds.map Bind.value :=
  values_foldl_push binds empty

theorem Assignment.map_value_binds (column : String) (a : Assignment) :
    (a.binds column).map Bind.value = a.boundValues := by
  cases a with
  | rawWith literal params => rw [binds, List.map_map]; exact List.map_id params
  | value v => rfl
  | increment fragment => rfl
  | raw literal => rfl
  | coalesce literal => rfl

theorem Statement.map_value_binds (s : Statement) : s.binds.map Bind.value = s.boundValues := by
  have hpredicate : ∀ p : Predicate, p.binds.map Bind.value = p.condition.values := fun p => by
    rw [Predicate.binds, List.map_map]; exact List.map_id p.condition.values
  rw [binds, boundValues, List.map_append, List.map_flatMap]
  congr 1
  · cases s.payload with
    | none => rfl
    | some p =>
      simp only [Payload.binds, List.map_flatMap, Assignment.map_value_binds]
  · simp only [hpredicate]

theorem Statement.values_compile (s : Statement) : s.compile.params.values = s.boundValues := by
  rw [compile, BindParams.values_ofBinds, map_value_binds]

/-- **Placeholders and bind parameters belong together.** Where the texts of a statement bring no
question marks of their own, its compiled text has one for every parameter, the parameters are the
values in the order in which the statement has them, and writing them into the text, however values
are written, gives the statement with its values in place. -/
theorem Statement.compile_aligned (s : Statement) (h : s.WellMarked) :
    s.compile.cql.toList.count '?' = s.compile.params.size ∧
      s.compile.params.values = s.boundValues ∧
      ∀ r : Rendering,
        Text.fill (s.compile.params.values.map r.write) s.compile.cql = s.written r.write := by
  refine ⟨?_, s.values_compile, fun r => ?_⟩
  · have hcount := (h.text_aligned default).count_eq
    rw [← s.values_compile, BindParams.values, List.length_map] at hcount
    exact hcount
  · rw [s.values_compile, Text.fill]
    show String.ofList (Text.fillChars (s.boundValues.map r.write) s.text.toList) = _
    rw [(h.text_aligned r).fill_eq, String.ofList_toList]

/-- An UPDATE that writes a bound value, an expression with two values, a sum and a marker, under a
negated list and a range. -/
theorem Statement.compile_aligned_update :
    let s : Statement :=
      { operation := .update, table := "t"
        payload := some ⟨[("a", .value (.int 1)), ("b", .rawWith "f(?, ?)" [.int 2, .int 3]),
          ("n", .increment " + 1"), ("m", .coalesce none)]⟩
        predicates := [{ field := "k", condition := .member true [.int 4, .null] },
          { connector := .or, field := "z", condition := .between false (.int 5) (.int 6) }]
        limit := some (.count 9) }
    s.WellMarked ∧ s.compile.cql.toList.count '?' = s.compile.params.size ∧
      s.compile.params.values = [.int 1, .int 2, .int 3, .int 4, .null, .int 5, .int 6] ∧
      ∀ r : Rendering,
        Text.fill (s.compile.params.values.map r.write) s.compile.cql = s.written r.write := by
  intro s
  have h : s.WellMarked := by decide
  obtain ⟨hcount, hvalues, hfill⟩ := s.compile_aligned h
  exact ⟨h, hcount, hvalues, hfill⟩

end WideColumn
