import WideColumn.Proofs.Text.Digits
import WideColumn.Proofs.Text.Placeholder
import WideColumn.Statement.Compile

/-! # Growing statements

A statement with more predicates or with a limit begins as the one without them: text and parameters
only go on at their ends. The text is trimmed as a whole, so white space that was trimmed off a
shorter text may come back in a longer one, but nothing in front of it changes. -/

namespace WideColumn

open Text (trimEnd trimEnd_append_of_ne_nil)

/-! ## Limits -/

theorem Text.IsNumeral.trimEnd_eq {n : Nat} {digits : List Char} (h : IsNumeral n digits) :
    trimEnd digits = digits := by
  rw [← List.dropLast_append_getLast h.ne_nil]
  exact trimEnd_concat _ _ (isBlank_of_isDigit (h.isDigit _ (List.getLast_mem h.ne_nil)))

namespace Limit

/-- The clause of a limit, with its numbers in decimal numerals. -/
inductive Clause : Limit → List Char → Prop
  | count {n : UInt64} {digits : List Char} (h : Text.IsNumeral n.toNat digits) :
    Clause (.count n) (" LIMIT ".toList ++ digits)
  | window {offset rows : UInt64} {front back : List Char}
    (hoffset : Text.IsNumeral offset.toNat front) (hrows : Text.IsNumeral rows.toNat back) :
    Clause (.window offset rows) (" LIMIT ".toList ++ front ++ ", ".toList ++ back)

theorem clause_text (l : Limit) : l.Clause l.text.toList := by
  cases l with
  | count n =>
    rw [text, String.toList_append, Text.toList_ofNat]
    exact .count (Text.isNumeral_numeral n.toNat)
  | window offset rows =>
    rw [text, String.toList_append, String.toList_append, String.toList_append, Text.toList_ofNat,
      Text.toList_ofNat]
    exact .window (Text.isNumeral_numeral offset.toNat) (Text.isNumeral_numeral rows.toNat)

/-- The clause of a limit ends in a digit, so that nothing is trimmed off it. -/
theorem Clause.trimEnd_append {l : Limit} {clause : List Char} (h : l.Clause clause)
    (cs : List Char) : trimEnd (cs ++ clause) = cs ++ clause := by
  have hdigits : ∀ {n : Nat} {digits : List Char} (front : List Char), Text.IsNumeral n digits →
      trimEnd (cs ++ (front ++ digits)) = cs ++ (front ++ digits) := fun front hn => by
    rw [← List.append_assoc, trimEnd_append_of_ne_nil (by rw [hn.trimEnd_eq]; exact hn.ne_nil),
      hn.trimEnd_eq]
  cases h with
  | count hn => exact hdigits _ hn
  | window hoffset hrows => exact hdigits _ hrows

/-- What the limit of a statement adds to its text, if there is one. -/
def textOf : Option Limit → String
  | some l => l.text
  | none => ""

end Limit

/-! ## Predicates -/

/-- What further predicates add to a WHERE clause that is there. -/
def furtherText (ps : List Predicate) : String :=
  String.join (ps.map fun p => p.text p.connector.keyword)

theorem furtherText_cons (p : Predicate) (ps : List Predicate) :
    furtherText (p :: ps) = p.text p.connector.keyword ++ furtherText ps := String.join_cons

theorem whereText_cons_append (p : Predicate) (ps more : List Predicate) :
    whereText (p :: ps ++ more) = whereText (p :: ps) ++ furtherText more := by
  rw [List.cons_append, whereText, whereText, furtherText, List.map_append, String.join_append]
  exact String.append_assoc.symm

/-- A WHERE clause only goes on when there are more predicates. -/
theorem exists_whereText_append (ps more : List Predicate) :
    ∃ further, whereText (ps ++ more) = whereText ps ++ further := by
  cases ps with
  | nil => exact ⟨whereText more, String.empty_append.symm⟩
  | cons p ps => exact ⟨furtherText more, whereText_cons_append p ps more⟩

theorem Connector.keyword_eq (connector : Connector) :
    connector.keyword = if connector = .and then "AND" else "OR" := by
  cases connector <;> rfl

/-- Nothing is trimmed off a connector. -/
theorem Connector.trimEnd_keyword (connector : Connector) :
    trimEnd (' ' :: connector.keyword.toList) = ' ' :: connector.keyword.toList := by
  cases connector <;> decide

namespace Statement

/-! ## Texts -/

/-- A statement under predicates of its own, with or without a limit. -/
def given (s : Statement) (predicates : List Predicate) (limit : Option Limit) : Statement :=
  { s with predicates, limit }

/-- The text of a statement in front of its WHERE clause. -/
def frontText (s : Statement) : String :=
  s.head ++ (match s.payload with | some p => p.text s.operation | none => "")

theorem fullText_given (s : Statement) (ps : List Predicate) (limit : Option Limit) :
    (s.given ps limit).fullText = s.frontText ++ whereText ps ++ Limit.textOf limit := by
  cases limit <;> rfl

theorem fullText_given_none (s : Statement) (ps : List Predicate) :
    (s.given ps none).fullText = s.frontText ++ whereText ps := String.append_empty

theorem toList_cql (s : Statement) : s.compile.cql.toList = trimEnd s.fullText.toList :=
  String.toList_ofList

/-- A statement is there whole in front of its limit. -/
theorem toList_cql_limit (s : Statement) (ps : List Predicate) (l : Limit) :
    (s.given ps (some l)).compile.cql.toList =
      (s.given ps none).fullText.toList ++ l.text.toList := by
  rw [toList_cql, fullText_given, ← fullText_given_none, String.toList_append]
  exact l.clause_text.trimEnd_append _

/-- A later predicate stands behind the statement up to there. -/
theorem fullText_given_later (s : Statement) (q : Predicate) (before : List Predicate)
    (p : Predicate) (after : List Predicate) (limit : Option Limit) :
    (s.given (q :: before ++ p :: after) limit).fullText =
      (s.given (q :: before) none).fullText ++ (" " ++ p.connector.keyword) ++
        (" " ++ p.field ++ (p.condition.text ++ furtherText after ++ Limit.textOf limit)) := by
  rw [fullText_given, fullText_given_none, whereText_cons_append, furtherText_cons, Predicate.text]
  simp only [String.append_assoc]

theorem toList_cql_later (s : Statement) (q : Predicate) (before : List Predicate) (p : Predicate)
    (after : List Predicate) (limit : Option Limit) :
    (s.given (q :: before ++ p :: after) limit).compile.cql.toList =
      (s.given (q :: before) none).fullText.toList ++ ' ' :: p.connector.keyword.toList ++
        trimEnd (' ' :: p.field.toList ++
          (p.condition.text ++ furtherText after ++ Limit.textOf limit).toList) := by
  have hword : (" " ++ p.connector.keyword).toList = ' ' :: p.connector.keyword.toList :=
    String.toList_append
  have hfield : (" " ++ p.field).toList = ' ' :: p.field.toList := String.toList_append
  rw [toList_cql, fullText_given_later, String.toList_append, String.toList_append, hword,
    String.toList_append, hfield]
  -- What there is up to the connector ends in a letter, so only the text behind it is trimmed.
  refine Text.trimEnd_append_of_trimmed ?_ _
  rw [trimEnd_append_of_ne_nil, p.connector.trimEnd_keyword]
  rw [p.connector.trimEnd_keyword]
  exact List.cons_ne_nil _ _

/-! ## Parameters -/

/-- Values that are added leave those that are there under their keys. -/
theorem params_prefix_foldl_push (binds : List Bind) (ps : BindParams) :
    ps.params <+: (binds.foldl BindParams.push ps).params := by
  induction binds generalizing ps with
  | nil => exact List.prefix_refl _
  | cons b rest ih => exact (List.prefix_append _ _).trans (ih (ps.push b))

theorem binds_given_append (s : Statement) (ps more : List Predicate) (limit : Option Limit) :
    (s.given (ps ++ more) limit).binds =
      (s.given ps limit).binds ++ more.flatMap Predicate.binds := by
  rw [binds, binds, given, given, List.flatMap_append, List.append_assoc]

/-- What a predicate binds does not depend on its connector. -/
theorem binds_given_connector (s : Statement) (before after : List Predicate) (p : Predicate)
    (limit : Option Limit) (connector : Connector) :
    (s.given (before ++ { p with connector } :: after) limit).binds =
      (s.given (before ++ p :: after) limit).binds := by
  rw [binds_given_append, binds_given_append]
  rfl

/-! ## Statements -/

/-- Whether a statement only ever goes on at its end when predicates and a limit are added. -/
structure Grows (s : Statement) : Prop where
  /-- Without a limit, more predicates add to text and parameters. -/
  predicates : ∀ ps more : List Predicate,
    (s.given ps none).compile.cql.toList <+: (s.given (ps ++ more) none).compile.cql.toList ∧
      (s.given ps none).compile.params.params <+: (s.given (ps ++ more) none).compile.params.params
  /-- A limit is the end of the text and binds nothing. -/
  limit : ∀ (ps : List Predicate) (l : Limit),
    (s.given ps (some l)).compile.params = (s.given ps none).compile.params ∧
      (s.given ps none).compile.cql.toList <+: (s.given ps (some l)).compile.cql.toList ∧
        ∃ clause, l.Clause clause ∧ clause <:+ (s.given ps (some l)).compile.cql.toList
  /-- The first predicate has no use for its connector. -/
  first : ∀ (p : Predicate) (after : List Predicate) (limit : Option Limit) (connector : Connector),
    (s.given ({ p with connector } :: after) limit).compile = (s.given (p :: after) limit).compile
  /-- The connector of a later predicate, AND or OR, stands in front of its field and nowhere else:
  the text before and behind does not depend on it. Before it comes the statement up to there, with
  the white space that had been trimmed off. -/
  later : ∀ (q : Predicate) (before : List Predicate) (p : Predicate) (after : List Predicate)
    (limit : Option Limit), ∃ gap rest, (∀ c ∈ gap, Text.isBlank c = true) ∧
      ∀ connector : Connector,
        let made := (s.given (q :: before ++ { p with connector } :: after) limit).compile
        let word := if connector = .and then "AND" else "OR"
        made.cql.toList = (s.given (q :: before) none).compile.cql.toList ++ gap ++
            ' ' :: word.toList ++ trimEnd (' ' :: p.field.toList ++ rest) ∧
          made.params = (s.given (q :: before ++ p :: after) limit).compile.params

/-- **Adding predicates or a limit only extends a statement.** -/
theorem grows (s : Statement) : s.Grows where
  predicates ps more := by
    constructor
    · obtain ⟨further, hfurther⟩ := exists_whereText_append ps more
      rw [toList_cql, toList_cql, fullText_given_none, fullText_given_none, hfurther,
        ← String.append_assoc, String.toList_append (t := further)]
      exact Text.trimEnd_prefix_append _ _
    · show (BindParams.ofBinds _).params <+: (BindParams.ofBinds _).params
      rw [binds_given_append, BindParams.ofBinds, BindParams.ofBinds, List.foldl_append]
      exact params_prefix_foldl_push _ _
  limit ps l := by
    -- With a limit there is again what was trimmed off the text without it.
    obtain ⟨tail, htail, -⟩ := Text.exists_trimEnd_append (s.given ps none).fullText.toList
    rw [toList_cql_limit, toList_cql]
    refine ⟨rfl, ⟨tail ++ l.text.toList, ?_⟩, l.text.toList, l.clause_text, List.suffix_append _ _⟩
    rw [← List.append_assoc, ← htail]
  first p after limit connector := rfl
  later q before p after limit := by
    obtain ⟨gap, hgap, hblank⟩ :=
      Text.exists_trimEnd_append (s.given (q :: before) none).fullText.toList
    -- Gap and rest are chosen before the connector, which is how they do not depend on it.
    refine ⟨gap, (p.condition.text ++ furtherText after ++ Limit.textOf limit).toList, hblank,
      fun connector => ⟨?_, ?_⟩⟩
    · rw [toList_cql_later, toList_cql, ← hgap, Connector.keyword_eq]
    · exact congrArg BindParams.ofBinds
        (s.binds_given_connector (q :: before) after p limit connector)

/-- White space at the end of a field is trimmed off, and is there again in front of a connector. -/
example :
    let s : Statement := { operation := .select, table := "t" }
    let bare : Predicate := { connector := .or, field := "a\u00a0", condition := .raw }
    let closed : Predicate := { connector := .or, field := "b", condition := .eq (.int 1) }
    (s.given [bare] none).compile.cql = "SELECT * FROM t WHERE  a" ∧
      (s.given [bare, closed] none).compile.cql = "SELECT * FROM t WHERE  a\u00a0 OR b = ?" := by
  decide +kernel

end Statement

end WideColumn
