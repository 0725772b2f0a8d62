import WideColumn.Payload.Json
import WideColumn.Proofs.Json.Members
import WideColumn.Proofs.Payload.Columns

/-! # The grammar of JSON payloads

What a member of a JSON payload may be and what it stands for, apart from the program that reads it.
A payload is read exactly where every member has a form, and then it has the members in their order,
each in the way of its form; otherwise the first member without a form is the error. -/

namespace WideColumn.Payload

/-! ## Forms -/

/-- The JSON values without parts and the native values that they stand for. -/
inductive Scalar : Json → Value → Prop
  | null : Scalar .null .null
  | no : Scalar (.bool false) (.int 0)
  | yes : Scalar (.bool true) (.int 1)
  | word (w : Int64) : Scalar (.integer w.toInt) (.int w)
  /-- An integer that does not fit in 64 bits becomes the nearest floating-point number. -/
  | beyond {n : Int} (h : n < -9223372036854775808 ∨ 9223372036854775807 < n) :
    Scalar (.integer n) (.double (.ofInt Binary.double n))
  | real (x : Binary.Double) : Scalar (.real x) (.double x)
  | string (s : String) : Scalar (.string s) (.text s)

/-- The forms of a member and the assignments that they stand for. -/
inductive Form : Json → Assignment → Prop
  | plain {json : Json} {value : Value} (h : Scalar json value) : Form json (.value value)
  | inc (w : Int64) : Form (.object [("$inc", .integer w.toInt)]) (.add w)
  | dec (w : Int64) : Form (.object [("$dec", .integer w.toInt)]) (.subtract w)
  | raw (literal : String) : Form (.object [("$raw", .string literal)]) (.raw literal)
  | rawWith (literal : String) {items : List Json} {values : List Value}
    (h : List.Forall₂ Scalar items values) :
    Form (.object [("$raw", .array (.string literal :: items))]) (.rawWith literal values)
  | not {json : Json} {value : Value} (h : Scalar json value) :
    Form (.object [("$not", json)]) (.ifMissing value)

/-- The JSON values with parts of their own. -/
inductive Nested : Json → Prop
  | array (items : List Json) : Nested (.array items)
  | object (members : List (String × Json)) : Nested (.object members)

/-- Whether a member is an object that asks for a way of writing that does not exist. -/
def UnknownTag (json : Json) (tag : String) : Prop :=
  (∃ argument, json = .object [(tag, argument)]) ∧ (∃ rest, tag.toList = '$' :: rest) ∧
    tag ∉ ["$inc", "$dec", "$raw", "$not"]

/-- The members that have no form, each with what is wrong with it. -/
inductive Refused : Json → Fault → Prop
  | amount {tag : String} {argument : Json} (htag : tag ∈ ["$inc", "$dec"])
    (h : ∀ w : Int64, argument ≠ .integer w.toInt) :
    Refused (.object [(tag, argument)]) (.notInteger tag)
  | rawItem {literal : String} {items : List Json} {item : Json} (hitem : item ∈ items)
    (h : Nested item) :
    Refused (.object [("$raw", .array (.string literal :: items))]) .nested
  | rawWithoutText {items : List Json} (h : ∀ literal rest, items ≠ .string literal :: rest) :
    Refused (.object [("$raw", .array items)]) .rawWithoutText
  | rawShape {argument : Json} (hstring : ∀ literal, argument ≠ .string literal)
    (harray : ∀ items, argument ≠ .array items) :
    Refused (.object [("$raw", argument)]) .rawShape
  | not {argument : Json} (h : Nested argument) :
    Refused (.object [("$not", argument)]) .nested
  | unknownTag {json : Json} {tag : String} (h : UnknownTag json tag) :
    Refused json (.unknownTag tag)
  | array (items : List Json) : Refused (.array items) .nested
  | object {members : List (String × Json)}
    (h : ∀ tag rest argument, tag.toList = '$' :: rest → members ≠ [(tag, argument)]) :
    Refused (.object members) .nested

/-! ## Reading a member -/

/-- Whether a result is right: a value that is meant, or a fault that is there. -/
def Outcome {α : Type} (meant : α → Prop) (wrong : Fault → Prop) : Except Fault α → Prop
  | .ok a => meant a
  | .error fault => wrong fault

theorem Outcome.map {α β : Type} {meant : α → Prop} {wrong : Fault → Prop} {meant' : β → Prop}
    {wrong' : Fault → Prop} {r : Except Fault α} {f : α → β} (h : Outcome meant wrong r)
    (hok : ∀ a, meant a → meant' (f a)) (herror : ∀ fault, wrong fault → wrong' fault) :
    Outcome meant' wrong' (r.map f) := by
  cases r with
  | ok a => exact hok a h
  | error fault => exact herror fault h

theorem scalar_outcome (json : Json) :
    Outcome (Scalar json) (fun fault => fault = .nested ∧ Nested json) (scalar json) := by
  cases json with
  | null => exact .null
  | bool b =>
    cases b with
    | false => exact .no
    | true => exact .yes
  | integer n =>
    rw [scalar]
    cases hword : Integer.toInt64? n with
    | some w =>
      rw [← Integer.toInt64?_eq_some.mp hword]
      exact .word w
    | none =>
      refine Scalar.beyond ?_
      rw [Integer.toInt64?, ite_eq_right_iff] at hword
      by_contra hrange
      cases hword (by omega)
  | real x => exact .real x
  | string s => exact .string s
  | array items => exact ⟨rfl, .array items⟩
  | object members => exact ⟨rfl, .object members⟩

theorem scalars_outcome (items : List Json) :
    Outcome (List.Forall₂ Scalar items)
      (fun fault => fault = .nested ∧ ∃ item ∈ items, Nested item) (scalars items) := by
  induction items with
  | nil => exact .nil
  | cons item rest ih =>
    have hitem := scalar_outcome item
    rw [scalars]
    cases hs : scalar item with
    | error fault =>
      rw [hs] at hitem
      exact ⟨hitem.1, item, List.mem_cons_self, hitem.2⟩
    | ok value =>
      rw [hs] at hitem
      cases hrest : scalars rest with
      | error fault =>
        rw [hrest] at ih
        obtain ⟨hfault, other, hother, hnested⟩ := ih
        exact ⟨hfault, other, List.mem_cons_of_mem item hother, hnested⟩
      | ok values =>
        rw [hrest] at ih
        exact .cons hitem ih

theorem amount_outcome (tag : String) (argument : Json) :
    Outcome (fun w : Int64 => argument = .integer w.toInt)
      (fun fault => fault = .notInteger tag ∧ ∀ w : Int64, argument ≠ .integer w.toInt)
      (amount tag argument) := by
  cases argument with
  | integer n =>
    rw [amount]
    cases hword : Integer.toInt64? n with
    | some w => exact congrArg Json.integer (Integer.toInt64?_eq_some.mp hword).symm
    | none =>
      refine ⟨rfl, fun w h => ?_⟩
      rw [Json.integer.inj h, Integer.toInt64?_toInt] at hword
      cases hword
  | _ => exact ⟨rfl, fun _ h => nomatch h⟩

theorem rawAssignment_outcome (argument : Json) :
    Outcome (Form (.object [("$raw", argument)])) (Refused (.object [("$raw", argument)]))
      (rawAssignment argument) := by
  cases argument with
  | string literal => exact .raw literal
  | array items =>
    by_cases h : ∃ literal rest, items = .string literal :: rest
    · obtain ⟨literal, rest, rfl⟩ := h
      refine (scalars_outcome rest).map (fun values => .rawWith literal) ?_
      rintro fault ⟨rfl, item, hitem, hnested⟩
      exact .rawItem hitem hnested
    · -- No text comes first, be it that there is another value or none at all.
      have hraw : rawAssignment (.array items) = .error .rawWithoutText := by
        rw [rawAssignment]
        exact fun literal rest hitems => h ⟨literal, rest, hitems⟩
      rw [hraw]
      exact .rawWithoutText fun literal rest hitems => h ⟨literal, rest, hitems⟩
  | _ => exact .rawShape (fun _ h => nomatch h) (fun _ h => nomatch h)

theorem isTag_iff {tag : String} : isTag tag = true ↔ ∃ rest, tag.toList = '$' :: rest := by
  rw [isTag, beq_iff_eq, List.head?_eq_some_iff]

theorem taggedAssignment_outcome {tag : String} (htag : isTag tag = true) (argument : Json) :
    Outcome (Form (.object [(tag, argument)])) (Refused (.object [(tag, argument)]))
      (taggedAssignment tag argument) := by
  -- One split for each tag, in the order in which they are tried.
  rw [taggedAssignment]
  split
  · next h =>
    subst h
    refine (amount_outcome "$inc" argument).map ?_ ?_
    · rintro w rfl
      exact .inc w
    · rintro fault ⟨rfl, hnested⟩
      exact .amount (by decide) hnested
  split
  · next h =>
    subst h
    refine (amount_outcome "$dec" argument).map ?_ ?_
    · rintro w rfl
      exact .dec w
    · rintro fault ⟨rfl, hnested⟩
      exact .amount (by decide) hnested
  split
  · next h =>
    subst h
    exact rawAssignment_outcome argument
  split
  · next h =>
    subst h
    refine (scalar_outcome argument).map (fun value => .not) ?_
    rintro fault ⟨rfl, hnested⟩
    exact .not hnested
  · next hinc hdec hraw hnot =>
    exact .unknownTag ⟨⟨argument, rfl⟩, isTag_iff.mp htag, by simp [hinc, hdec, hraw, hnot]⟩

theorem jsonAssignment_eq {json : Json} (h : ∀ tag argument, json ≠ .object [(tag, argument)]) :
    jsonAssignment json = (scalar json).map .value := by
  rw [jsonAssignment]
  exact h

/-- **A member is read by its form,** and refused where it has none. -/
theorem jsonAssignment_outcome (json : Json) :
    Outcome (Form json) (Refused json) (jsonAssignment json) := by
  -- Only an object with a single member can have a tag; all else is read as a scalar.
  by_cases hone : ∃ tag argument, json = .object [(tag, argument)]
  · obtain ⟨tag, argument, rfl⟩ := hone
    rw [jsonAssignment]
    split
    · next htag => exact taggedAssignment_outcome htag argument
    · next htag =>
      refine Refused.object fun other rest argument' hother heq => htag ?_
      cases heq
      exact isTag_iff.mpr ⟨rest, hother⟩
  · rw [jsonAssignment_eq fun tag argument h => hone ⟨tag, argument, h⟩]
    refine (scalar_outcome json).map (fun value => .plain) ?_
    rintro fault ⟨rfl, hnested⟩
    cases hnested with
    | array items => exact .array items
    | object members =>
      exact .object fun tag rest argument _ hmembers => hone ⟨tag, argument, hmembers ▸ rfl⟩

theorem scalar_of_scalar {json : Json} {value : Value} (h : Scalar json value) :
    scalar json = .ok value := by
  cases h with
  | word w => rw [scalar, Integer.toInt64?_toInt]
  | beyond hn =>
    rw [scalar, Integer.toInt64?, if_neg (by omega)]
  | null | no | yes | real x | string s => rfl

theorem scalars_of_forall₂ {items : List Json} {values : List Value}
    (h : List.Forall₂ Scalar items values) : scalars items = .ok values := by
  induction h with
  | nil => rfl
  | cons hitem _ ih =>
    rw [scalars, scalar_of_scalar hitem, ih]
    rfl

/-- A member that has a form is read. -/
theorem jsonAssignment_of_form {json : Json} {a : Assignment} (h : Form json a) :
    jsonAssignment json = .ok a := by
  have hword (tag : String) (w : Int64) : amount tag (.integer w.toInt) = .ok w := by
    rw [amount, Integer.toInt64?_toInt]
  cases h with
  | plain h =>
    have hone : ∀ tag argument, json ≠ .object [(tag, argument)] := by
      rintro tag argument rfl
      cases h
    rw [jsonAssignment_eq hone, scalar_of_scalar h]
    rfl
  | inc w => exact congrArg (Except.map _) (hword "$inc" w)
  | dec w => exact congrArg (Except.map _) (hword "$dec" w)
  | raw literal => rfl
  | rawWith literal h => exact congrArg (Except.map _) (scalars_of_forall₂ h)
  | not h => exact congrArg (Except.map _) (scalar_of_scalar h)

theorem jsonAssignment_of_unknownTag {json : Json} {tag : String} (h : UnknownTag json tag) :
    jsonAssignment json = .error (.unknownTag tag) := by
  obtain ⟨⟨argument, rfl⟩, hdollar, hknown⟩ := h
  simp only [List.mem_cons, List.not_mem_nil, or_false, not_or] at hknown
  rw [jsonAssignment, if_pos (isTag_iff.mpr hdollar), taggedAssignment, if_neg hknown.1,
    if_neg hknown.2.1, if_neg hknown.2.2.1, if_neg hknown.2.2.2]

/-! ## Reading all members -/

/-- Whether an entry has the column of a member and is written in the way of its form. -/
def StandsFor (m : String × Json) (entry : String × Assignment) : Prop :=
  entry.1 = m.1 ∧ Form m.2 entry.2

/-- A column with a name of its own comes last, and the names behind it are their own still. -/
theorem set_of_nodup {p : Payload} {column : String} {rest : List String}
    (h : (p.columns ++ column :: rest).Nodup) (a : Assignment) :
    p.set column a = ⟨p.entries ++ [(column, a)]⟩ ∧ ((p.set column a).columns ++ rest).Nodup := by
  have hnew : column ∉ p.entries.map Prod.fst := fun hmem =>
    (List.nodup_append.mp h).2.2 column hmem column List.mem_cons_self rfl
  have hset : p.set column a = ⟨p.entries ++ [(column, a)]⟩ := by
    rw [set, setEntry_of_not_mem hnew]
  refine ⟨hset, ?_⟩
  rw [hset, columns, List.map_append, List.append_assoc, List.map_singleton]
  exact h

/-- Members with forms and with names of their own become entries in their order. -/
theorem addMembers_of_forms {members : List (String × Json)} {entries : List (String × Assignment)}
    (h : List.Forall₂ StandsFor members entries) :
    ∀ {p : Payload}, (p.columns ++ members.map Prod.fst).Nodup →
      addMembers p members = .ok ⟨p.entries ++ entries⟩ := by
  induction h with
  | nil =>
    intro p _
    rw [List.append_nil]
    rfl
  | @cons m entry members entries hm _ ih =>
    intro p hnodup
    obtain ⟨hset, hrest⟩ := set_of_nodup hnodup entry.2
    rw [addMembers, jsonAssignment_of_form hm.2]
    simp only
    rw [ih hrest, hset, ← hm.1]
    exact congrArg (fun entries => Except.ok (Payload.mk entries)) (List.append_assoc p.entries _ _)

/-- Where members are read all of them have forms. -/
theorem exists_forms_of_addMembers {members : List (String × Json)} {q : Payload} :
    ∀ {p : Payload}, addMembers p members = .ok q →
      ∃ entries, List.Forall₂ StandsFor members entries := by
  induction members with
  | nil => exact fun _ => ⟨[], .nil⟩
  | cons m rest ih =>
    intro p h
    have hm := jsonAssignment_outcome m.2
    rw [addMembers] at h
    cases hread : jsonAssignment m.2 with
    | error fault =>
      rw [hread] at h
      cases h
    | ok a =>
      rw [hread] at h hm
      obtain ⟨entries, hentries⟩ := ih h
      exact ⟨(m.1, a) :: entries, .cons ⟨rfl, hm⟩ hentries⟩

/-- The error of a payload is that of its first member without a form. -/
theorem exists_of_addMembers_eq_error {members : List (String × Json)} {error : Error} :
    ∀ {p : Payload}, addMembers p members = .error error →
      ∃ before m after fault, members = before ++ m :: after ∧
        (∀ b ∈ before, ∃ a, Form b.2 a) ∧ jsonAssignment m.2 = .error fault ∧
          error = fault.toError m.1 := by
  induction members with
  | nil => exact fun h => nomatch h
  | cons m rest ih =>
    intro p h
    have hm := jsonAssignment_outcome m.2
    rw [addMembers] at h
    cases hread : jsonAssignment m.2 with
    | error fault =>
      rw [hread] at h
      cases h
      exact ⟨[], m, rest, fault, rfl, fun b hb => absurd hb List.not_mem_nil, hread, rfl⟩
    | ok a =>
      rw [hread] at h hm
      obtain ⟨before, other, after, fault, rfl, hbefore, hother, herror⟩ := ih h
      exact ⟨m :: before, other, after, fault, rfl,
        List.forall_mem_cons.mpr ⟨⟨a, hm⟩, hbefore⟩, hother, herror⟩

theorem columns_of_forms {members : List (String × Json)} {entries : List (String × Assignment)}
    (h : List.Forall₂ StandsFor members entries) :
    entries.map Prod.fst = members.map Prod.fst := by
  induction h with
  | nil => rfl
  | cons hm _ ih => rw [List.map_cons, List.map_cons, hm.1, ih]

theorem exists_forms_iff {members : List (String × Json)} :
    (∃ entries, List.Forall₂ StandsFor members entries) ↔ ∀ m ∈ members, ∃ a, Form m.2 a := by
  constructor
  · rintro ⟨entries, h⟩
    induction h with
    | nil => exact List.forall_mem_nil _
    | cons hm _ ih => exact List.forall_mem_cons.mpr ⟨⟨_, hm.2⟩, ih⟩
  · intro h
    induction members with
    | nil => exact ⟨[], .nil⟩
    | cons m rest ih =>
      obtain ⟨⟨a, ha⟩, hrest⟩ := List.forall_mem_cons.mp h
      obtain ⟨entries, hentries⟩ := ih hrest
      exact ⟨(m.1, a) :: entries, .cons ⟨rfl, ha⟩ hentries⟩

/-! ## Payloads -/

/-- Whether the payload of an object is what its members say. -/
structure Grammatical (members : List (String × Json)) : Prop where
  /-- There is one exactly where every member has a form. -/
  accepted_iff : (∃ p, ofJson (.object members) = .ok p) ↔ ∀ m ∈ members, ∃ a, Form m.2 a
  /-- It has an entry for each member, in their order. -/
  ok_iff : ∀ p : Payload,
    ofJson (.object members) = .ok p ↔ List.Forall₂ StandsFor members p.entries
  /-- Its columns are the names of the members, each once, in ascending order. -/
  columns_eq : ∀ p : Payload, ofJson (.object members) = .ok p →
    p.columns = members.map Prod.fst ∧ p.columns.Pairwise (· < ·)
  /-- An error is about the first member that has no form. -/
  refused : ∀ error, ofJson (.object members) = .error error →
    ∃ before m after fault, members = before ++ m :: after ∧
      (∀ b ∈ before, ∃ a, Form b.2 a) ∧ (∀ a, ¬Form m.2 a) ∧
      Refused m.2 fault ∧ error = fault.toError m.1 ∧
      (∀ tag, error = .unsupportedMutation tag ↔ UnknownTag m.2 tag) ∧
      ((∀ tag, ¬UnknownTag m.2 tag) → ∃ message, error = .conversion m.1 message)

theorem Fault.toError_eq_unsupportedMutation {column tag : String} {fault : Fault} :
    fault.toError column = .unsupportedMutation tag ↔ fault = .unknownTag tag := by
  cases fault with
  | unknownTag other => simp [toError]
  | _ => simp [toError]

/-- All faults but an unknown tag are errors about the column. -/
theorem Fault.toError_eq_conversion (column : String) {fault : Fault}
    (h : ∀ tag, fault ≠ .unknownTag tag) :
    ∃ message, fault.toError column = .conversion column message := by
  cases fault with
  | unknownTag tag => exact absurd rfl (h tag)
  | _ => exact ⟨_, rfl⟩

theorem unknownTag_iff {json : Json} {fault : Fault} (h : jsonAssignment json = .error fault)
    (tag : String) : fault = .unknownTag tag ↔ UnknownTag json tag := by
  constructor
  · rintro rfl
    have hrefused := jsonAssignment_outcome json
    rw [h] at hrefused
    cases hrefused with
    | unknownTag hunknown => exact hunknown
  · intro hunknown
    rw [jsonAssignment_of_unknownTag hunknown] at h
    exact (Except.error.inj h).symm

theorem grammatical {members : List (String × Json)} (h : Json.Ordered members) :
    Grammatical members := by
  have hnodup : (members.map Prod.fst).Nodup :=
    (List.pairwise_map.mpr h).imp fun hlt => String.ne_of_lt hlt
  have hforms : ∀ {entries}, List.Forall₂ StandsFor members entries →
      ofJson (.object members) = .ok ⟨entries⟩ := fun hentries =>
    addMembers_of_forms (p := empty) hentries hnodup
  have hok : ∀ p : Payload,
      ofJson (.object members) = .ok p ↔ List.Forall₂ StandsFor members p.entries := by
    refine fun p => ⟨fun hp => ?_, hforms⟩
    obtain ⟨entries, hentries⟩ := exists_forms_of_addMembers hp
    rw [hforms hentries] at hp
    cases hp
    exact hentries
  -- A payload is told by its forms from here on, and an error by the reading of one member.
  refine ⟨?_, hok, fun p hp => ?_, fun error herror => ?_⟩
  · rw [← exists_forms_iff]
    exact ⟨fun ⟨p, hp⟩ => ⟨p.entries, (hok p).mp hp⟩,
      fun ⟨entries, hentries⟩ => ⟨_, hforms hentries⟩⟩
  · have hcolumns : p.columns = members.map Prod.fst := columns_of_forms ((hok p).mp hp)
    rw [hcolumns]
    exact ⟨rfl, List.pairwise_map.mpr h⟩
  · obtain ⟨before, m, after, fault, hsplit, hbefore, hm, rfl⟩ :=
      exists_of_addMembers_eq_error herror
    have hrefused := jsonAssignment_outcome m.2
    rw [hm] at hrefused
    refine ⟨before, m, after, fault, hsplit, hbefore, fun a ha => ?_, hrefused, rfl, fun tag => ?_,
      fun hknown => Fault.toError_eq_conversion m.1 fun tag htag => ?_⟩
    · rw [jsonAssignment_of_form ha] at hm
      cases hm
    · rw [Fault.toError_eq_unsupportedMutation, unknownTag_iff hm]
    · exact hknown tag ((unknownTag_iff hm tag).mp htag)

/-- **JSON is read as a payload exactly by the grammar:** an object by the forms of its members, and
nothing else. -/
theorem ofJson_grammatical :
    (∀ json, (∀ members, json ≠ .object members) →
        ∃ message, ofJson json = .error (.other message)) ∧
      ∀ members, Json.Ordered members → Grammatical members := by
  refine ⟨fun json h => ⟨"mutation payload must be a JSON object", ?_⟩, fun members => grammatical⟩
  rw [ofJson]
  exact h

/-- An expression with a value, an amount beyond 64 bits and a tag without a meaning: the amount
comes first. -/
theorem ofJson_grammatical_visits :
    let members : List (String × Json) :=
      [("expires", .object [("$raw", .array [.string "dateOf(?)", .integer 5])]),
        ("visits", .object [("$inc", .integer 9223372036854775808)]),
        ("zone", .object [("$mul", .integer 2)])]
    (∀ ms, Json.array [] ≠ .object ms) ∧ Json.Ordered members ∧
      (∃ message, ofJson (.array []) = .error (.other message)) ∧ Grammatical members ∧
      ofJson (.object members) = .error (.conversion "visits" "$inc expects an integer") := by
  intro members
  have harray : ∀ ms, Json.array [] ≠ .object ms := fun _ h => nomatch h
  have hordered : Json.Ordered members := by
    simp only [Json.Ordered, members]
    decide +kernel
  exact ⟨harray, hordered, ofJson_grammatical.1 _ harray, ofJson_grammatical.2 _ hordered, rfl⟩

end WideColumn.Payload
