import WideColumn.Statement.Basic
import WideColumn.Text.Blank

/-! # Statement text
The CQL text of a statement, with a question mark for every bound value: head, payload, WHERE clause
and limit, in this order. -/

namespace WideColumn

/-- A bound value in the text. -/
def placeholder : String := "?"

/-- The right-hand side of an assignment to a column. -/
def Assignment.text (column : String) : Assignment → String
  | value _ => placeholder
  | increment fragment => column ++ fragment
  | raw literal => literal
  | rawWith literal _ => literal
  | coalesce (some literal) => "!" ++ literal
  | coalesce none => "!" ++ column

namespace Payload

/-- The item of a column: in an UPDATE with the column in front, elsewhere the right-hand side
alone. -/
def itemText (operation : Operation) (entry : String × Assignment) : String :=
  match operation with
  | .update => entry.1 ++ " = " ++ entry.2.text entry.1
  | _ => entry.2.text entry.1

/-- The items of all columns. -/
def itemsText (p : Payload) (operation : Operation) : String :=
  ", ".intercalate (p.entries.map (itemText operation))

/-- What a payload adds to a statement: in an INSERT columns and values, elsewhere the items. -/
def text (p : Payload) (operation : Operation) : String :=
  match operation with
  | .insert => " (" ++ ", ".intercalate p.columns ++ ") VALUES (" ++ p.itemsText .insert ++ ")"
  | operation => " " ++ p.itemsText operation

end Payload

/-- What a condition adds behind its field. -/
def Condition.text : Condition → String
  | raw => ""
  | eq _ => " = " ++ placeholder
  | compare operator _ => " " ++ operator ++ " " ++ placeholder
  | member negated values =>
    (if negated then " NOT IN (" else " IN (") ++
      ", ".intercalate (values.map fun _ => placeholder) ++ ")"
  | between negated _ _ =>
    (if negated then " NOT BETWEEN " else " BETWEEN ") ++ placeholder ++ " AND " ++ placeholder

/-- A predicate with a word in front of it. -/
def Predicate.text (word : String) (p : Predicate) : String :=
  " " ++ word ++ " " ++ p.field ++ p.condition.text

/-- The WHERE clause of predicates. The first one needs no connector, whose place stays empty. -/
def whereText : List Predicate → String
  | [] => ""
  | p :: rest =>
    " WHERE" ++ p.text "" ++ String.join (rest.map fun q => q.text q.connector.keyword)

/-- What a limit adds to a statement. -/
def Limit.text : Limit → String
  | count n => " LIMIT " ++ Text.ofNat n.toNat
  | window offset rows => " LIMIT " ++ Text.ofNat offset.toNat ++ ", " ++ Text.ofNat rows.toNat

namespace Statement

/-- How a statement begins. -/
def head (s : Statement) : String :=
  match s.operation with
  | .select =>
    "SELECT " ++ (if s.columns = [] then "*" else ", ".intercalate s.columns) ++ " FROM " ++ s.table
  | .insert => "INSERT INTO " ++ s.table
  | .update => "UPDATE " ++ s.table ++ " SET"
  | .delete => "DELETE FROM " ++ s.table

/-- The parts of a statement one after the other. -/
def fullText (s : Statement) : String :=
  s.head ++ (match s.payload with | some p => p.text s.operation | none => "") ++
    whereText s.predicates ++ (match s.limit with | some l => l.text | none => "")

/-- The text of a statement, without white space at its end. -/
def text (s : Statement) : String := String.ofList (Text.trimEnd s.fullText.toList)

end Statement

end WideColumn
