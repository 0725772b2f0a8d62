import Mathlib.Data.List.Induction
import Mathlib.Data.List.Nodup
import WideColumn.Proofs.Naming
import WideColumn.Proofs.Statement.Growth

/-! # Columns of a payload

A payload is an ordered map: a column has the place of its first setting and the assignment of its
last one. A write goes through it column by column. The columns and the items of an INSERT are two
lists, in which a column and its item have the same place; an UPDATE puts the two side by side. -/

namespace WideColumn

open Text (trimEnd)

namespace Payload

/-! ## Settings -/

/-- What a sequence of settings makes of the payload without columns. -/
def ofSettings (settings : List (String × Assignment)) : Payload :=
  settings.foldl (fun p setting => p.set setting.1 setting.2) empty

/-- Whether a column was set in a given way, and not again after that. -/
def LastSet (settings : List (String × Assignment)) (column : String) (a : Assignment) : Prop :=
  ∃ before after, settings = before ++ (column, a) :: after ∧ ∀ later ∈ after, later.1 ≠ column

theorem ofSettings_concat (settings : List (String × Assignment))
    (setting : String × Assignment) :
    ofSettings (settings ++ [setting]) = (ofSettings settings).set setting.1 setting.2 :=
  List.foldl_append

/-- A new column comes last. -/
theorem setEntry_of_not_mem {column : String} {entries : List (String × Assignment)}
    (h : column ∉ entries.map Prod.fst) (assignment : Assignment) :
    setEntry column assignment entries = entries ++ [(column, assignment)] := by
  induction entries with
  | nil => rfl
  | cons head rest ih =>
    rw [List.map_cons, List.mem_cons, not_or] at h
    rw [setEntry, if_neg fun heq => h.1 heq.symm, ih h.2, List.cons_append]

/-- What a setting makes of the entries, where no column is there twice. -/
theorem mem_setEntry {column other : String} {assignment a : Assignment}
    {entries : List (String × Assignment)} (h : (entries.map Prod.fst).Nodup) :
    (other, a) ∈ setEntry column assignment entries ↔
      (other, a) = (column, assignment) ∨ other ≠ column ∧ (other, a) ∈ entries := by
  induction entries with
  | nil => simp
  | cons head rest ih =>
    obtain ⟨hnew, hrest⟩ := List.nodup_cons.mp h
    rw [setEntry]
    split
    · next hhead =>
      by_cases hother : other = column
      · -- The column is that of the head, so no entry behind the head has it.
        have hrest' : (other, a) ∉ rest := fun hmem =>
          hnew (List.mem_map.mpr ⟨(other, a), hmem, hother.trans hhead.symm⟩)
        simp [hhead, hother, hother ▸ hrest']
      · have hhead' : (other, a) ≠ head := fun heq => hother (by rw [← hhead, ← heq])
        simp [hhead, hother, hhead']
    · next hhead =>
      rw [List.mem_cons, List.mem_cons, ih hrest]
      by_cases hother : other = column
      · have hhead' : (other, a) ≠ head := fun heq => hhead (by rw [← heq, hother])
        simp [hother, hother ▸ hhead']
      · simp [hother]

theorem nodup_columns_set {p : Payload} (h : p.columns.Nodup) (column : String)
    (assignment : Assignment) : (p.set column assignment).columns.Nodup := by
  rw [columns_set]
  split
  · exact h
  · next hnew =>
    rw [← List.concat_eq_append]
    exact h.concat hnew

theorem nodup_columns_ofSettings (settings : List (String × Assignment)) :
    (ofSettings settings).columns.Nodup := by
  induction settings using List.reverseRecOn with
  | nil => exact List.nodup_nil
  | append_singleton settings setting ih =>
    rw [ofSettings_concat]
    exact nodup_columns_set ih _ _

theorem columns_ofSettings (settings : List (String × Assignment)) :
    (ofSettings settings).columns = (settings.map Prod.fst).eraseDups := by
  induction settings using List.reverseRecOn with
  | nil => rfl
  | append_singleton settings setting ih =>
    rw [ofSettings_concat, columns_set, ih, List.map_append, List.eraseDups_append]
    have hone : [setting.1].eraseDups = [setting.1] := rfl
    by_cases h : setting.1 ∈ settings.map Prod.fst
    · simp [h, List.removeAll]
    · simp [h, List.removeAll, hone]

theorem mem_ofSettings {settings : List (String × Assignment)} {column : String}
    {a : Assignment} : (column, a) ∈ (ofSettings settings).entries ↔ LastSet settings column a := by
  induction settings using List.reverseRecOn with
  | nil => simp [ofSettings, empty, LastSet]
  | append_singleton settings setting ih =>
    have hlast : LastSet (settings ++ [setting]) column a ↔
        (column, a) = setting ∨ column ≠ setting.1 ∧ LastSet settings column a := lastNamed_concat
    rw [ofSettings_concat, hlast, ← ih]
    exact mem_setEntry (nodup_columns_ofSettings settings)

/-- Whether settings make an ordered map. -/
structure Arranged (settings : List (String × Assignment)) : Prop where
  /-- The columns that were set, each at the place of its first setting. -/
  columns_eq : (ofSettings settings).columns = (settings.map Prod.fst).eraseDups
  nodup : (ofSettings settings).columns.Nodup
  /-- A column is written as it was set the last time. -/
  mem_iff : ∀ column a, (column, a) ∈ (ofSettings settings).entries ↔ LastSet settings column a

/-! ## Items -/

/-- The right-hand sides of the columns in order. -/
def items (p : Payload) : List String := p.entries.map fun entry => entry.2.text entry.1

/-- An INSERT of columns and items, written out. -/
def insertText (table : String) (columns items : List String) : String :=
  "INSERT INTO " ++ table ++ " (" ++ ", ".intercalate columns ++ ") VALUES (" ++
    ", ".intercalate items ++ ")"

/-- An UPDATE of columns with items, written out. -/
def updateText (table : String) (columns items : List String) : String :=
  "UPDATE " ++ table ++ " SET " ++
    ", ".intercalate (columns.zipWith (fun column item => column ++ " = " ++ item) items)

/-- A column and an item that have the same place are those of one entry. -/
theorem columns_items_iff {p : Payload} {k : Nat} {column item : String} :
    (p.columns[k]? = some column ∧ p.items[k]? = some item) ↔
      ∃ a, p.entries[k]? = some (column, a) ∧ item = a.text column := by
  rw [columns, items, List.getElem?_map, List.getElem?_map]
  cases p.entries[k]? with
  | none => simp
  | some entry =>
    simp only [Option.map_some, Option.some.injEq]
    constructor
    · rintro ⟨rfl, rfl⟩
      exact ⟨entry.2, rfl, rfl⟩
    · rintro ⟨a, rfl, rfl⟩
      exact ⟨rfl, rfl⟩

theorem zipWith_columns_items (p : Payload) (join : String → String → String) :
    p.columns.zipWith join p.items =
      p.entries.map fun entry => join entry.1 (entry.2.text entry.1) := by
  rw [columns, items, List.zipWith_map, List.zipWith_self]

/-- A text that ends in a bracket is trimmed already. -/
theorem trimEnd_insertText (table : String) (columns items : List String) :
    trimEnd (insertText table columns items).toList = (insertText table columns items).toList := by
  obtain ⟨front, hfront⟩ : ∃ front, insertText table columns items = front ++ ")" := ⟨_, rfl⟩
  rw [hfront, String.toList_append]
  exact Text.trimEnd_concat front.toList ')' rfl

/-- The texts in front of the WHERE clause of a write. -/
theorem frontText_insert (p : Payload) (table : String) (columns : List String) :
    Statement.frontText { operation := .insert, table, columns, payload := some p } =
      insertText table p.columns p.items := by
  show "INSERT INTO " ++ table ++ (" (" ++ ", ".intercalate p.columns ++ ") VALUES (" ++
      ", ".intercalate p.items ++ ")") =
    "INSERT INTO " ++ table ++ " (" ++ ", ".intercalate p.columns ++ ") VALUES (" ++
      ", ".intercalate p.items ++ ")"
  simp only [String.append_assoc]

theorem frontText_update (p : Payload) (table : String) (columns : List String) :
    Statement.frontText { operation := .update, table, columns, payload := some p } =
      updateText table p.columns p.items := by
  have hitems : p.itemsText .update = ", ".intercalate
      (p.columns.zipWith (fun column item => column ++ " = " ++ item) p.items) := by
    rw [zipWith_columns_items]
    rfl
  show "UPDATE " ++ table ++ " SET" ++ (" " ++ p.itemsText .update) =
    "UPDATE " ++ table ++ (" SET" ++ " ") ++ _
  rw [hitems]
  simp only [String.append_assoc]

end Payload

namespace Statement

/-- What predicates and a limit add to a statement. -/
def addedText (predicates : List Predicate) (limit : Option Limit) : String :=
  String.ofList (trimEnd (whereText predicates ++ Limit.textOf limit).toList)

/-- Where there are predicates or a limit, they add something that is not white space. -/
theorem trimEnd_added_ne_nil {predicates : List Predicate} {limit : Option Limit}
    (h : predicates ≠ [] ∨ limit ≠ none) :
    trimEnd (whereText predicates ++ Limit.textOf limit).toList ≠ [] := by
  cases predicates with
  | cons p rest =>
    have hletter : 'W' ∈ (whereText (p :: rest) ++ Limit.textOf limit).toList := by
      simp [whereText]
    exact Text.trimEnd_ne_nil hletter rfl
  | nil =>
    cases limit with
    | none => simp at h
    | some l =>
      have hletter : 'L' ∈ (whereText [] ++ Limit.textOf (some l)).toList := by
        cases l <;> simp [whereText, Limit.textOf, Limit.text]
      exact Text.trimEnd_ne_nil hletter rfl

/-- Predicates and a limit are written behind the rest of the statement, which they leave whole. -/
theorem cql_given (s : Statement) {predicates : List Predicate} {limit : Option Limit}
    (h : predicates ≠ [] ∨ limit ≠ none) :
    (s.given predicates limit).compile.cql = s.frontText ++ addedText predicates limit := by
  have hadded : (addedText predicates limit).toList =
      trimEnd (whereText predicates ++ Limit.textOf limit).toList := String.toList_ofList
  rw [← String.toList_inj, toList_cql, fullText_given, String.append_assoc,
    String.toList_append (s := s.frontText), String.toList_append (s := s.frontText), hadded]
  -- Something is left of what is added, so trimming does not reach the text in front of it.
  exact Text.trimEnd_append_of_ne_nil (trimEnd_added_ne_nil h) _

theorem cql_given_nil (s : Statement) :
    (s.given [] none).compile.cql = String.ofList (trimEnd s.frontText.toList) := by
  rw [← String.toList_inj, toList_cql, fullText_given_none, String.toList_ofList]
  exact congrArg (fun text => trimEnd text.toList) String.append_empty

end Statement

namespace Payload

/-- Whether a payload is written column by column. The items do not depend on each other, on the
predicates or on the kind of the write. -/
structure Columnwise (p : Payload) : Prop where
  length_eq : p.items.length = p.columns.length
  /-- The item in the place of a column is made of this column and its assignment. -/
  place : ∀ (k : Nat) (column item : String),
    (p.columns[k]? = some column ∧ p.items[k]? = some item) ↔
      ∃ a : Assignment, p.entries[k]? = some (column, a) ∧ item = a.text column
  insert : ∀ table columns,
    (Statement.compile { operation := .insert, table, columns, payload := some p }).cql =
      insertText table p.columns p.items
  update : ∀ table columns,
    (Statement.compile { operation := .update, table, columns, payload := some p }).cql =
      String.ofList (trimEnd (updateText table p.columns p.items).toList)
  /-- Predicates and a limit come behind all that. -/
  added : ∀ table columns predicates limit, predicates ≠ [] ∨ limit ≠ none →
    (Statement.compile
        { operation := .insert, table, columns, payload := some p, predicates, limit }).cql =
        insertText table p.columns p.items ++ Statement.addedText predicates limit ∧
      (Statement.compile
        { operation := .update, table, columns, payload := some p, predicates, limit }).cql =
        updateText table p.columns p.items ++ Statement.addedText predicates limit

theorem columnwise (p : Payload) : p.Columnwise where
  length_eq := by rw [items, columns, List.length_map, List.length_map]
  place _ _ _ := columns_items_iff
  insert table columns := by
    have hcql := Statement.cql_given_nil { operation := .insert, table, columns, payload := some p }
    rwa [frontText_insert, trimEnd_insertText, String.ofList_toList] at hcql
  update table columns := by
    have hcql := Statement.cql_given_nil { operation := .update, table, columns, payload := some p }
    rwa [frontText_update] at hcql
  added table columns predicates limit h := by
    have hinsert :=
      Statement.cql_given { operation := .insert, table, columns, payload := some p } h
    have hupdate :=
      Statement.cql_given { operation := .update, table, columns, payload := some p } h
    rw [frontText_insert] at hinsert
    rw [frontText_update] at hupdate
    exact ⟨hinsert, hupdate⟩

/-- **A payload is an ordered map that is written column by column.** -/
theorem arranged_columnwise :
    (∀ settings, Arranged settings) ∧ ∀ p : Payload, p.Columnwise :=
  ⟨fun settings => ⟨columns_ofSettings settings, nodup_columns_ofSettings settings,
    fun _ _ => mem_ofSettings⟩, columnwise⟩

example : (ofSettings [("a", .value (.int 1)), ("b", .raw "now()"), ("a", .increment " + 1")]) =
    ⟨[("a", .increment " + 1"), ("b", .raw "now()")]⟩ := by
  decide

end Payload

end WideColumn
