import WideColumn.Client.Basic
import WideColumn.Proofs.Statement.Alignment
import WideColumn.Proofs.Text.Words

/-! # Operators in words

What an operator means is told by a table of names and operands. An operator is found in it however
its words are written, it means what the call of its own means where there is one, and all values of
its operand end up behind placeholders of the clause. -/

namespace WideColumn

open Text (Aligned marks marks_append)

namespace Operator

/-! ## Names -/

/-- Whether an operator has a name: its words in upper case, with one space between them. -/
def Named (operator name : String) : Prop :=
  ∃ words, Text.Spelled words operator.toList ∧
    name = String.ofList ([' '].intercalate (words.map (·.map Char.toUpper)))

/-- The normal form of an operator is the only name that it has. -/
theorem named_iff {operator name : String} : Named operator name ↔ normalize operator = name := by
  simp only [Named, Text.spelled_iff, exists_eq_left', normalize]
  exact eq_comm

example : normalize "\tNot \n in" = "NOT IN" := by decide +kernel

/-- The name of an operator that takes a list. -/
def ListOperator.keyword : ListOperator → String
  | member false => "IN"
  | member true => "NOT IN"
  | between false => "BETWEEN"
  | between true => "NOT BETWEEN"

theorem listOperator?_keyword (op : ListOperator) : listOperator? op.keyword = some op := by
  rcases op with (_ | _) | (_ | _) <;> rfl

theorem eq_keyword_of_listOperator? {name : String} {op : ListOperator}
    (h : listOperator? name = some op) : name = op.keyword := by
  unfold listOperator? at h
  split at h <;> cases h <;> rfl

theorem listOperator?_eq_none_iff {name : String} :
    listOperator? name = none ↔ ∀ op : ListOperator, name ≠ op.keyword := by
  constructor
  · rintro h op rfl
    rw [listOperator?_keyword] at h
    cases h
  · intro h
    cases hop : listOperator? name with
    | none => rfl
    | some op => exact absurd (eq_keyword_of_listOperator? hop) (h op)

/-! ## Meanings -/

/-- What an operator means with an operand, by its name. Operators without a name of their own are
written as they were given, trimmed. -/
inductive Meaning (written : String) : String → Operand → Except Fault Condition → Prop
  | member (negated : Bool) (values : List Value) :
    Meaning written (ListOperator.member negated).keyword (.list values)
      (.ok (.member negated values))
  | between (negated : Bool) (low high : Value) :
    Meaning written (ListOperator.between negated).keyword (.list [low, high])
      (.ok (.between negated low high))
  | twoValues (negated : Bool) (values : List Value) (h : values.length ≠ 2) :
    Meaning written (ListOperator.between negated).keyword (.list values)
      (.error (.twoValues (ListOperator.between negated).keyword values.length))
  | needsList (op : ListOperator) (value : Value) :
    Meaning written op.keyword (.one value) (.error (.needsList op.keyword))
  | empty (operand : Operand) : Meaning written "" operand (.error .empty)
  | equal (value : Value) : Meaning written "=" (.one value) (.ok (.eq value))
  | other {name : String} (hlist : ∀ op : ListOperator, name ≠ op.keyword) (hempty : name ≠ "")
    (hequal : name ≠ "=") (value : Value) :
    Meaning written name (.one value) (.ok (.compare written value))
  | needsOne {name : String} (hlist : ∀ op : ListOperator, name ≠ op.keyword) (hempty : name ≠ "")
    (values : List Value) : Meaning written name (.list values) (.error (.needsOne written))

/-- An operator and an operand make what the table has for them. -/
theorem meaning_condition (operator : String) (operand : Operand) :
    Meaning (trimmed operator) (normalize operator) operand (condition operator operand) := by
  unfold condition
  cases hop : listOperator? (normalize operator) with
  | some op =>
    simp only [hop]
    rw [eq_keyword_of_listOperator? hop]
    cases operand with
    | one value => cases op <;> exact .needsList _ value
    | list values =>
      cases op with
      | member negated => exact .member negated values
      | between negated =>
        match values with
        | [] => exact .twoValues negated [] (by simp)
        | [value] => exact .twoValues negated [value] (by simp)
        | [low, high] => exact .between negated low high
        | _ :: _ :: _ :: rest => exact .twoValues negated (_ :: _ :: _ :: rest) (by simp)
  | none =>
    have hlist := listOperator?_eq_none_iff.mp hop
    simp only [hop]
    by_cases hempty : normalize operator = ""
    · rw [if_pos hempty, hempty]
      exact .empty operand
    · rw [if_neg hempty]
      cases operand with
      | list values => exact .needsOne hlist hempty values
      | one value =>
        show Meaning _ _ _ (if normalize operator = "=" then _ else _)
        by_cases hequal : normalize operator = "="
        · rw [if_pos hequal, hequal]
          exact .equal value
        · rw [if_neg hequal]
          exact .other hlist hempty hequal value

namespace Meaning

variable {operator written name : String} {operand : Operand} {made : Condition}
  {result : Except Fault Condition}

/-- What the table has for an operator and an operand is what they make. -/
theorem condition_eq (h : Meaning (trimmed operator) name operand result)
    (hname : normalize operator = name) : condition operator operand = result := by
  unfold condition
  rw [hname]
  cases h with
  | member | between => simp only [listOperator?_keyword]
  | needsList op value => cases op <;> simp only [listOperator?_keyword]
  | twoValues negated values hlength =>
    match values with
    | [] | [_] | _ :: _ :: _ :: _ => simp only [listOperator?_keyword]
    | [_, _] => exact absurd rfl hlength
  | empty operand => rfl
  | equal value => rfl
  | other hlist hempty hequal value =>
    simp only [listOperator?_eq_none_iff.mpr hlist, if_neg hempty, if_neg hequal]
  | needsOne hlist hempty values =>
    simp only [listOperator?_eq_none_iff.mpr hlist, if_neg hempty]

/-- A condition has exactly the values of its operand. -/
theorem values_eq (h : Meaning written name operand (.ok made)) : made.values = operand.values := by
  cases h <;> rfl

end Meaning

/-- Whether an operator takes an operand. -/
def Takes (name : String) : Operand → Prop
  | .list values =>
    name = "IN" ∨ name = "NOT IN" ∨ (name = "BETWEEN" ∨ name = "NOT BETWEEN") ∧ values.length = 2
  | .one _ =>
    name ≠ "" ∧ name ≠ "IN" ∧ name ≠ "NOT IN" ∧ name ≠ "BETWEEN" ∧ name ≠ "NOT BETWEEN"

/-- The operators that take one value are those that take no list. -/
theorem takes_one_iff {name : String} {value : Value} :
    Takes name (.one value) ↔ name ≠ "" ∧ ∀ op : ListOperator, name ≠ op.keyword := by
  constructor
  · rintro ⟨hempty, hin, hnotIn, hbetween, hnotBetween⟩
    refine ⟨hempty, fun op => ?_⟩
    rcases op with (_ | _) | (_ | _)
    · exact hin
    · exact hnotIn
    · exact hbetween
    · exact hnotBetween
  · rintro ⟨hempty, hlist⟩
    exact ⟨hempty, hlist (.member false), hlist (.member true), hlist (.between false),
      hlist (.between true)⟩

theorem exists_keyword_of_takes_list {name : String} {values : List Value}
    (h : Takes name (.list values)) : ∃ op : ListOperator, name = op.keyword := by
  rcases h with h | h | ⟨h | h, -⟩
  · exact ⟨.member false, h⟩
  · exact ⟨.member true, h⟩
  · exact ⟨.between false, h⟩
  · exact ⟨.between true, h⟩

/-- The table has a condition where the operator takes the operand, and a fault elsewhere. -/
theorem Meaning.takes_iff {written name : String} {operand : Operand}
    {result : Except Fault Condition} (h : Meaning written name operand result) :
    (∃ made, result = .ok made) ↔ Takes name operand := by
  cases h with
  | member negated values =>
    refine iff_of_true ⟨_, rfl⟩ ?_
    cases negated with
    | false => exact .inl rfl
    | true => exact .inr (.inl rfl)
  | between negated low high =>
    refine iff_of_true ⟨_, rfl⟩ (.inr (.inr ⟨?_, rfl⟩))
    cases negated with
    | false => exact .inl rfl
    | true => exact .inr rfl
  | equal value =>
    have hlist : ∀ op : ListOperator, "=" ≠ op.keyword := listOperator?_eq_none_iff.mp rfl
    exact iff_of_true ⟨_, rfl⟩ (takes_one_iff.mpr ⟨by decide, hlist⟩)
  | other hlist hempty hequal value =>
    exact iff_of_true ⟨_, rfl⟩ (takes_one_iff.mpr ⟨hempty, hlist⟩)
  | twoValues negated values hlength =>
    refine iff_of_false (fun ⟨_, h⟩ => nomatch h) ?_
    rintro (h | h | ⟨-, h⟩)
    · cases negated <;> exact absurd h (by decide)
    · cases negated <;> exact absurd h (by decide)
    · exact hlength h
  | needsList op value =>
    exact iff_of_false (fun ⟨_, h⟩ => nomatch h) fun h => (takes_one_iff.mp h).2 op rfl
  | empty operand =>
    refine iff_of_false (fun ⟨_, h⟩ => nomatch h) fun h => ?_
    cases operand with
    | one value => exact (takes_one_iff.mp h).1 rfl
    | list values =>
      obtain ⟨op, hop⟩ := exists_keyword_of_takes_list h
      exact listOperator?_eq_none_iff.mp rfl op hop
  | needsOne hlist hempty values =>
    refine iff_of_false (fun ⟨_, h⟩ => nomatch h) fun h => ?_
    obtain ⟨op, hop⟩ := exists_keyword_of_takes_list h
    exact hlist op hop

end Operator

/-! ## Clauses -/

/-- Whether a text in which values are written has a site for each of some values, in their order,
and depends on how they are written nowhere else. -/
inductive Sited : ((Value → String) → String) → List Value → Prop
  | verbatim (text : String) : Sited (fun _ => text) []
  | site (value : Value) : Sited (fun write => write value) [value]
  | append {f g : (Value → String) → String} {vs ws : List Value} (hf : Sited f vs)
    (hg : Sited g ws) : Sited (fun write => f write ++ g write) (vs ++ ws)

namespace Sited

variable {f : (Value → String) → String} {vs : List Value}

theorem between (before after : String) (h : Sited f vs) :
    Sited (fun write => before ++ f write ++ after) vs := by
  have hall := ((verbatim before).append h).append (verbatim after)
  rwa [List.nil_append, List.append_nil] at hall

theorem intercalate (separator : String) (values : List Value) :
    Sited (fun write => separator.intercalate (values.map write)) values := by
  induction values with
  | nil => exact verbatim ""
  | cons v rest ih =>
    cases rest with
    | nil =>
      simp only [List.map_cons, List.map_nil, String.intercalate_singleton]
      exact site v
    | cons w rest =>
      simp only [List.map_cons, String.intercalate_cons_cons] at ih ⊢
      exact ((site v).append (verbatim separator)).append ih

end Sited

/-- A condition that is written out has a site for each of its values. -/
theorem Condition.sited_written (c : Condition) :
    Sited (fun write => c.written write) c.values := by
  cases c with
  | raw => exact .verbatim ""
  | eq value => exact (Sited.verbatim " = ").append (.site value)
  | compare operator value => exact (Sited.verbatim (" " ++ operator ++ " ")).append (.site value)
  | member negated values =>
    cases negated with
    | false => exact (Sited.intercalate ", " values).between " IN (" ")"
    | true => exact (Sited.intercalate ", " values).between " NOT IN (" ")"
  | between negated low high =>
    cases negated with
    | false => exact ((Sited.site low).between " BETWEEN " " AND ").append (.site high)
    | true => exact ((Sited.site low).between " NOT BETWEEN " " AND ").append (.site high)

/-- A condition has a placeholder where its values are when it is written out. -/
theorem Condition.text_eq_written (c : Condition) : c.text = c.written fun _ => placeholder := by
  cases c with
  | raw | eq _ | compare _ _ => rfl
  | member negated _ | between negated _ _ => cases negated <;> rfl

/-- The text that a condition brings along besides its values. Question marks in it are its own and
stand for no value. -/
def Condition.verbatim : Condition → String
  | compare operator _ => operator
  | raw | eq _ | member _ _ | between _ _ _ => ""

theorem Condition.text_compare (operator : String) (value : Value) :
    (compare operator value).text = " " ++ operator ++ " ?" := by
  have hend : " " ++ placeholder = " ?" := rfl
  rw [text, String.append_assoc, hend]

theorem Condition.marks_text_of_wellMarked {c : Condition} (h : c.WellMarked) :
    marks c.text = c.values.length :=
  have haligned : Aligned (fun _ => "") c.text c.values (c.written fun _ => "") := aligned h
  haligned.marks_eq

/-- A condition has a placeholder for each of its values, and no other question mark than those of
its operator. -/
theorem Condition.marks_text (c : Condition) :
    marks c.text = marks c.verbatim + c.values.length := by
  cases c with
  | compare operator value =>
    rw [text, marks_append, marks_append, marks_append]
    show 0 + marks operator + 0 + 1 = marks operator + 1
    omega
  | raw | eq _ | member _ _ | between _ _ _ =>
    refine (marks_text_of_wellMarked ?_).trans (Nat.zero_add _).symm
    trivial

theorem Predicate.marks_text (word : String) (p : Predicate) :
    marks (p.text word) = marks word + marks p.field + marks p.condition.text := by
  rw [text, marks_append, marks_append, marks_append, marks_append]
  show 0 + marks word + 0 + marks p.field + marks p.condition.text = _
  omega

/-- One more predicate brings the question marks of its field and of its condition into the clause,
and its connector brings none. -/
theorem marks_whereText_concat (ps : List Predicate) (p : Predicate) :
    marks (whereText (ps ++ [p])) =
      marks (whereText ps) + (marks p.field + marks p.condition.text) := by
  cases ps with
  | nil =>
    show marks (" WHERE" ++ p.text "" ++ "") = 0 + _
    rw [marks_append, marks_append, p.marks_text]
    show 0 + (0 + marks p.field + marks p.condition.text) + 0 = _
    omega
  | cons q rest =>
    have hkeyword : marks p.connector.keyword = 0 :=
      List.count_eq_zero.mpr (unmarked_keyword p.connector)
    have hempty : marks "" = 0 := rfl
    simp only [List.cons_append, whereText, List.map_append, List.map_cons, List.map_nil,
      String.join_append, String.join_cons, String.join_nil, marks_append, Predicate.marks_text,
      hkeyword, hempty]
    omega

/-- A statement with one more condition. -/
def Statement.under (s : Statement) (p : Predicate) : Statement :=
  { s with predicates := s.predicates ++ [p] }

theorem Statement.marks_compile (s : Statement) :
    marks s.compile.cql = marks s.fullText := Text.marks_trimEnd s.fullText

theorem Statement.marks_compile_under (s : Statement) (p : Predicate) :
    marks (s.under p).compile.cql =
      marks s.compile.cql + (marks p.field + marks p.condition.text) := by
  rw [marks_compile, marks_compile, fullText, fullText, marks_append, marks_append, marks_append,
    marks_append, marks_append, marks_append]
  show marks s.head + _ + marks (whereText (s.predicates ++ [p])) + _ = _
  rw [marks_whereText_concat]
  simp only [under]
  omega

theorem Statement.values_compile_under (s : Statement) (p : Predicate) :
    (s.under p).compile.params.values = s.compile.params.values ++ p.condition.values := by
  rw [values_compile, values_compile, boundValues, boundValues, List.append_assoc]
  simp only [under, List.flatMap_append, List.flatMap_singleton]

/-! ## Operators of a client -/

namespace Client

variable {Prepared : Type} {operator : String} {operand : Operand}

theorem whereOperator_of_ok {made : Condition} (h : Operator.condition operator operand = .ok made)
    (c : Client Prepared) (field : String) :
    c.whereOperator field operator operand = c.whereCondition field made := by
  rw [whereOperator, Chain.pushOperator, h, whereCondition]

theorem whereCondition_eq (c : Client Prepared) (field : String) (made : Condition) :
    c.whereCondition field made =
      { c with chain := { c.chain with predicates := c.pending ++ [⟨.and, field, made⟩] } } := rfl

theorem whereOperator_of_error {fault : Operator.Fault}
    (h : Operator.condition operator operand = .error fault)
    (c : Client Prepared) (field : String) :
    c.whereOperator field operator operand =
      { c with chain := { c.chain with fault := some (c.chain.fault.getD fault) } } := by
  rw [whereOperator, Chain.pushOperator, h]
  cases hfault : c.chain.fault <;> rfl

end Client

namespace Operator

/-- Whether a call with an operator in words does what the call of this operator does. -/
structure Followed {Prepared : Type} (c : Client Prepared) (field operator : String)
    (operand : Operand) : Prop where
  member : Named operator "IN" → ∀ values, operand = .list values →
    c.whereOperator field operator operand = c.whereIn field values
  notMember : Named operator "NOT IN" → ∀ values, operand = .list values →
    c.whereOperator field operator operand = c.whereNotIn field values
  between : Named operator "BETWEEN" → ∀ low high, operand = .list [low, high] →
    c.whereOperator field operator operand = c.whereBetween field low high
  notBetween : Named operator "NOT BETWEEN" → ∀ low high, operand = .list [low, high] →
    c.whereOperator field operator operand = c.whereNotBetween field low high
  /-- Only the call for equality leaves null out. -/
  equal : Named operator "=" → ∀ value, operand = .one value →
    c.whereOperator field operator operand = c.whereCondition field (.eq value) ∧
      (value ≠ .null → c.whereOperator field operator operand = c.whereEqual field value)
  /-- An operator without a call of its own is written as it was given, without the white space
  around it. -/
  other : ¬ Named operator "=" → Takes (normalize operator) operand →
    ∀ value, operand = .one value →
      let made := Condition.compare (trimmed operator) value
      c.whereOperator field operator operand = c.whereCondition field made ∧
        made.text = " " ++ trimmed operator ++ " ?"
  /-- Where there is a condition, it goes behind those that were there before, joined by AND, and
  nothing else changes. -/
  accepted : Takes (normalize operator) operand → ∃ made,
    condition operator operand = .ok made ∧ c.whereOperator field operator operand =
      { c with chain := { c.chain with predicates := c.pending ++ [⟨.and, field, made⟩] } }
  /-- Where there is no condition, the fault is remembered and nothing else changes. A fault that
  was there before stays in its place. -/
  refused : ¬ Takes (normalize operator) operand → ∃ fault,
    condition operator operand = .error fault ∧ c.whereOperator field operator operand =
      { c with chain := { c.chain with fault := some (c.chain.fault.getD fault) } }

/-- Whether an operator and an operand make the condition that they should make: it exists exactly
where the operator takes the operand, a statement under it binds the values of the operand, each
behind a placeholder of its own, and the calls of a client agree with it. -/
structure Interpreted (operator : String) (operand : Operand) : Prop where
  /-- The normal form is the name of the operator. -/
  named_iff : ∀ name, Named operator name ↔ normalize operator = name
  trimmed : Text.TrimmedTo operator.toList (trimmed operator).toList
  taken_iff : (∃ made, condition operator operand = .ok made) ↔ Takes (normalize operator) operand
  invalid : ¬ Takes (normalize operator) operand → ∃ fault message,
    condition operator operand = .error fault ∧ fault.toError = .invalidCondition message
  values_eq : ∀ {made}, condition operator operand = .ok made →
    ∀ (s : Statement) (connector : Connector) (field : String),
      (s.under ⟨connector, field, made⟩).compile.params.values =
        s.compile.params.values ++ operand.values
  /-- The clause has a site for each value, and a placeholder at every site. -/
  sited : ∀ {made}, condition operator operand = .ok made →
    Sited (fun write => made.written write) operand.values ∧
      made.text = made.written fun _ => placeholder
  /-- Apart from the texts that the caller brings, a question mark stands for each value. -/
  marks_eq : ∀ {made}, condition operator operand = .ok made →
    ∀ (s : Statement) (connector : Connector) (field : String),
      marks (s.under ⟨connector, field, made⟩).compile.cql =
        marks s.compile.cql + (marks field + marks made.verbatim + operand.values.length)
  followed : ∀ {Prepared : Type} (c : Client Prepared) (field : String),
    Followed c field operator operand

variable {operator name : String} {operand : Operand}

/-- An operator means the same however it is spelled. -/
theorem condition_of_named {result : Except Fault Condition} (hname : Named operator name)
    (h : Meaning (trimmed operator) name operand result) : condition operator operand = result :=
  h.condition_eq (named_iff.mp hname)

theorem exists_error_of_not_takes (h : ¬ Takes (normalize operator) operand) :
    ∃ fault, condition operator operand = .error fault := by
  cases hresult : condition operator operand with
  | ok made => exact absurd ((meaning_condition operator operand).takes_iff.mp ⟨made, hresult⟩) h
  | error fault => exact ⟨fault, rfl⟩

theorem values_of_condition_eq_ok {made : Condition} (h : condition operator operand = .ok made) :
    made.values = operand.values :=
  Meaning.values_eq (h ▸ meaning_condition operator operand)

theorem followed {Prepared : Type} (c : Client Prepared) (field operator : String)
    (operand : Operand) : Followed c field operator operand where
  member hname values hoperand := by
    rw [hoperand]
    exact c.whereOperator_of_ok (condition_of_named hname (.member false values)) field
  notMember hname values hoperand := by
    rw [hoperand]
    exact c.whereOperator_of_ok (condition_of_named hname (.member true values)) field
  between hname low high hoperand := by
    rw [hoperand]
    exact c.whereOperator_of_ok (condition_of_named hname (.between false low high)) field
  notBetween hname low high hoperand := by
    rw [hoperand]
    exact c.whereOperator_of_ok (condition_of_named hname (.between true low high)) field
  equal hname value hoperand := by
    rw [hoperand]
    have hcall := c.whereOperator_of_ok (condition_of_named hname (.equal value)) field
    refine ⟨hcall, fun hnull => hcall.trans ?_⟩
    rw [Client.whereEqual, Condition.equal.eq_2 value hnull]
  other hequal htakes value hoperand := by
    rw [hoperand] at htakes ⊢
    obtain ⟨hempty, hlist⟩ := takes_one_iff.mp htakes
    have hmeaning : Meaning (Operator.trimmed operator) (normalize operator) (.one value) _ :=
      .other hlist hempty (fun h => hequal (named_iff.mpr h)) value
    exact ⟨c.whereOperator_of_ok (hmeaning.condition_eq rfl) field, Condition.text_compare _ _⟩
  accepted h := by
    obtain ⟨made, hmade⟩ := (meaning_condition operator operand).takes_iff.mpr h
    exact ⟨made, hmade, (c.whereOperator_of_ok hmade field).trans (c.whereCondition_eq field made)⟩
  refused h := by
    obtain ⟨fault, hfault⟩ := exists_error_of_not_takes h
    exact ⟨fault, hfault, c.whereOperator_of_error hfault field⟩

/-- **Operators in words are taken as what they say,** and no value of an operand is lost. -/
theorem interpreted (operator : String) (operand : Operand) : Interpreted operator operand where
  named_iff _ := Operator.named_iff
  trimmed := by
    rw [Operator.trimmed, String.toList_ofList]
    exact Text.trimmedTo_iff.mpr rfl
  taken_iff := (meaning_condition operator operand).takes_iff
  invalid h := by
    obtain ⟨fault, hfault⟩ := exists_error_of_not_takes h
    exact ⟨fault, fault.message, hfault, rfl⟩
  values_eq hmade s connector field := by
    rw [s.values_compile_under, values_of_condition_eq_ok hmade]
  sited {made} hmade := by
    rw [← values_of_condition_eq_ok hmade]
    exact ⟨made.sited_written, made.text_eq_written⟩
  marks_eq hmade s connector field := by
    rw [s.marks_compile_under, Condition.marks_text, values_of_condition_eq_ok hmade, Nat.add_assoc]
  followed c field := Operator.followed c field operator operand

/-- Membership asked for in words, and asked for again without a list. -/
theorem interpreted_not_in :
    let values : List Value := [.int 1, .int 2]
    let c : Client String := (Client.new {} default).whereEqual "name" (.text "a")
    let asked := c.whereOperator "age" "\tnot  In " (.list values)
    asked = c.whereNotIn "age" values ∧
      asked.pending = [⟨.and, "name", .eq (.text "a")⟩, ⟨.and, "age", .member true values⟩] ∧
      asked.whereOperator "age" "\tnot  In " (.one (.int 1)) =
        { asked with chain := { asked.chain with fault := some (.needsList "NOT IN") } } := by
  intro values c asked
  have hlist := interpreted "\tnot  In " (.list values)
  have hone := interpreted "\tnot  In " (.one (.int 1))
  have hname : Named "\tnot  In " "NOT IN" := (hlist.named_iff "NOT IN").mpr (by decide +kernel)
  have hmade : condition "\tnot  In " (.list values) = .ok (.member true values) :=
    condition_of_named hname (.member true values)
  have hrefused : condition "\tnot  In " (.one (.int 1)) = .error (.needsList "NOT IN") :=
    condition_of_named hname (.needsList (.member true) (.int 1))
  refine ⟨(hlist.followed c "age").notMember hname values rfl, ?_, ?_⟩
  · obtain ⟨made, heq, hasked⟩ := (hlist.followed c "age").accepted (hlist.taken_iff.mp ⟨_, hmade⟩)
    cases hmade.symm.trans heq
    exact congrArg Client.pending hasked
  · have htaken : ¬ Takes (normalize "\tnot  In ") (.one (.int 1)) := by
      intro htakes
      obtain ⟨made, hok⟩ := hone.taken_iff.mpr htakes
      cases hrefused.symm.trans hok
    obtain ⟨fault, heq, hasked⟩ := (hone.followed asked "age").refused htaken
    cases hrefused.symm.trans heq
    exact hasked

end Operator

end WideColumn
