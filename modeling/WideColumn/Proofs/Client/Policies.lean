import WideColumn.Proofs.Client.Run
import WideColumn.Proofs.Client.TwoRuns
import WideColumn.Proofs.Conversion.Minting
import WideColumn.Proofs.Payload.RowJson

/-! # Clients with different policies

Two clients that are the same but for what happens to identifiers that are written. They find the
same statements and turn the same values into cells, so that what a request looks for, compares or
puts into an expression does not depend on the policy. -/

namespace WideColumn

variable {World Prepared : Type} {db : Backend World Prepared}

open WideColumn.Action (Alike)
open Conversation (Link)

/-! ## Values that are not written -/

namespace Bind

theorem not_writtenTo_of_operand {b : Bind} (h : b.role = .operand) (schema : Option Schema)
    (type : ColumnType) : ¬ b.WrittenTo schema type := by
  intro hwritten
  cases h.symm.trans hwritten.role_eq

/-- The cells of a part of some values, which comes behind others. -/
def cellsOf (before part : List Bind) (cells : List Cell) : List Cell :=
  (cells.drop before.length).take part.length

namespace ConfinesAll

variable {schema : Option Schema} {source : UuidSource} {binds : List Bind}
  {kept minted : List Cell}

theorem getElem?_eq (h : ConfinesAll schema source binds kept minted) {i : Nat} {b : Bind}
    (hb : binds[i]? = some b) (hrole : b.role = .operand) : minted[i]? = kept[i]? := by
  obtain ⟨hi, -⟩ := List.getElem?_eq_some_iff.mp hb
  have hkept : i < kept.length := h.length_kept ▸ hi
  have hminted : i < minted.length := h.length_minted ▸ hi
  have hconfines := h.confines i b kept[i] minted[i] hb (List.getElem?_eq_getElem hkept)
    (List.getElem?_eq_getElem hminted)
  rw [List.getElem?_eq_getElem hkept, List.getElem?_eq_getElem hminted]
  exact congrArg some (hconfines.other (not_writtenTo_of_operand hrole schema .uuid)
    (not_writtenTo_of_operand hrole schema .timeuuid))

/-- Operands that stand together keep their cells. -/
theorem cellsOf_eq {before part after : List Bind}
    (h : ConfinesAll schema source (before ++ part ++ after) kept minted)
    (hpart : ∀ b ∈ part, b.role = .operand) :
    cellsOf before part minted = cellsOf before part kept := by
  apply List.ext_getElem?
  intro i
  rw [cellsOf, cellsOf, List.getElem?_take, List.getElem?_take]
  by_cases hi : i < part.length
  · rw [if_pos hi, if_pos hi, List.getElem?_drop, List.getElem?_drop]
    have hb : (before ++ part ++ after)[before.length + i]? = some part[i] := by
      rw [List.append_assoc, List.getElem?_append_right (Nat.le_add_right _ _),
        Nat.add_sub_cancel_left, List.getElem?_append_left hi, List.getElem?_eq_getElem hi]
    exact h.getElem?_eq hb (hpart _ (List.getElem_mem hi))
  · rw [if_neg hi, if_neg hi]

/-- Where there are only operands, all cells are kept. -/
theorem eq_of_operands (h : ConfinesAll schema source binds kept minted)
    (hbinds : ∀ b ∈ binds, b.role = .operand) : minted = kept := by
  apply List.ext_getElem?
  intro i
  by_cases hi : i < binds.length
  · exact h.getElem?_eq (List.getElem?_eq_getElem hi) (hbinds _ (List.getElem_mem hi))
  · rw [List.getElem?_eq_none (by rw [h.length_minted]; exact Nat.le_of_not_lt hi),
      List.getElem?_eq_none (by rw [h.length_kept]; exact Nat.le_of_not_lt hi)]

end ConfinesAll

end Bind

/-- The values of conditions are compared, never written. -/
theorem Predicate.role_of_mem_binds {predicates : List Predicate} {b : Bind}
    (h : b ∈ predicates.flatMap binds) : b.role = .operand := by
  obtain ⟨p, -, hb⟩ := List.mem_flatMap.mp h
  obtain ⟨value, -, rfl⟩ := List.mem_map.mp hb
  rfl

/-- The values of an expression are not written as they are. -/
theorem Assignment.role_of_mem_rawWith {column literal : String} {values : List Value} {b : Bind}
    (h : b ∈ (rawWith literal values).binds column) : b.role = .operand := by
  obtain ⟨value, -, rfl⟩ := List.mem_map.mp h
  rfl

/-! ## Two clients -/

/-- A client with another policy for identifiers. -/
def Client.withPolicy (policy : UuidPolicy) (c : Client Prepared) : Client Prepared :=
  { c with config := { c.config with uuidWrites := policy } }

/-- A conversation of a client with another policy for identifiers. -/
def Conversation.withPolicy (policy : UuidPolicy) (c : Conversation World Prepared) :
    Conversation World Prepared :=
  { c with client := c.client.withPolicy policy }

/-- Two conversations whose clients and databases are the same but for the policy. -/
structure ApartFromPolicy (c d : Conversation World Prepared) : Prop where
  client_eq : c.client.withPolicy .honor = d.client.withPolicy .honor
  world_eq : c.world = d.world

namespace ApartFromPolicy

variable {c d : Conversation World Prepared}

theorem withPolicy (c : Conversation World Prepared) (policy policy' : UuidPolicy) :
    ApartFromPolicy (c.withPolicy policy) (c.withPolicy policy') := ⟨rfl, rfl⟩

theorem changes (f : Client Prepared → Client Prepared)
    (hf : ∀ a, (f a).withPolicy .honor = f (a.withPolicy .honor)) :
    Alike (ApartFromPolicy : Link World Prepared) ApartFromPolicy Eq (Action.modifyClient f)
      (Action.modifyClient f) := by
  intro c d h
  refine ⟨.ok rfl, ?_, h.world_eq⟩
  show (f c.client).withPolicy .honor = (f d.client).withPolicy .honor
  rw [hf, h.client_eq, ← hf]

theorem calls {α : Type} {step : World → Except Error α × World}
    {asCall : Except Error α → Call Prepared} :
    Alike ApartFromPolicy ApartFromPolicy Eq (Action.call step asCall)
      (Action.call step asCall) := by
  intro c d h
  rw [Action.runOn_call, Action.runOn_call, h.world_eq]
  exact ⟨.ok rfl, h.client_eq, rfl⟩

theorem likeness (db : Backend World Prepared) : Likeness db ApartFromPolicy where
  connection_eq _ _ h := (congrArg Client.connection h.client_eq :)
  schemas_eq _ _ h := (congrArg Client.schemas h.client_eq :)
  connect := calls
  columns _ := calls
  report _ _ _ h := ⟨.ok rfl, h.client_eq, h.world_eq⟩
  setConnection _ := changes _ fun _ => rfl
  countRefresh := changes _ fun _ => rfl
  keepSchema _ := changes _ fun _ => rfl

/-- The same statement is found, and the schema for it. -/
theorem findsQuery (db : Backend World Prepared) (request : Request) :
    Alike (ApartFromPolicy : Link World Prepared) ApartFromPolicy Eq
      (Client.findsQuery db request) (Client.findsQuery db request) := by
  have hcompile (c d : Conversation World Prepared) (h : ApartFromPolicy c d) :
      c.client.compile request = d.client.compile request :=
    Client.compile_congr (congrArg Client.chain h.client_eq) request
  refine (likeness db).opens.andThen fun _ _ _ => (likeness db).finds rfl rfl ?_ ?_
  · exact fun c d h => .of_eq (hcompile c d h)
  · rintro query _ rfl
    rfl

end ApartFromPolicy

/-! ## The cells of a request -/

namespace Client

variable {c c' : Conversation World Prepared} {request : Request}

/-- Up to its statement a request neither hands one to the session nor changes the settings. -/
theorem findsQuery_spec (db : Backend World Prepared) (request : Request)
    (c : Conversation World Prepared) :
    (∃ made, ((findsQuery db request).runOn c).2.calls = c.calls ++ made ∧
      ∀ call ∈ made, call.cql? = none) ∧
    ((findsQuery db request).runOn c).2.client.config = c.client.config ∧
    ∀ query, ((findsQuery db request).runOn c).1 = .ok query →
      c.client.compile request = .ok query := by
  have hconn := connects db c
  rw [findsQuery, Action.runOn_bind]
  rcases hrun : (connect db).runOn c with ⟨error | ⟨⟩, c₁⟩
  · rw [hrun] at hconn
    obtain ⟨connection, hclient⟩ := hconn.client_eq
    obtain ⟨made, hmade, hnone⟩ := hconn.continues
    exact ⟨⟨made, hmade.calls_eq, hnone⟩, (congrArg Client.config hclient :), by simp⟩
  · rw [hrun] at hconn
    have hfind := finds db request c₁
    obtain ⟨connection, hclient⟩ := hconn.client_eq
    obtain ⟨schemas, stats, hclient'⟩ := hfind.client_eq
    obtain ⟨made, hmade, hnone⟩ := hconn.continues_finds hfind
    refine ⟨⟨made, hmade.calls_eq, hnone⟩, ?_, ?_⟩
    · show ((findStatement db request).runOn c₁).2.client.config = c.client.config
      rw [hclient']
      exact (congrArg Client.config hclient :)
    · intro query hquery
      simp only at hquery
      rw [hquery] at hfind
      exact hconn.compile_eq hfind

/-- What is executed are the cells of the statement that was found. -/
theorem bound_of_mem_executions {t : Terminal} {cql : String} {cells : List Cell}
    (h : (cql, cells) ∈ ((t.act db).calls c).filterMap Call.execution?) :
    ∃ query c', (findsQuery db t.request).runOn c = (.ok query, c') ∧
      c'.client.config = c.client.config ∧ c.client.compile t.request = .ok query ∧
      query.cql = cql ∧ c'.client.cells? t.request.table query.params = .ok cells := by
  have hmade := (t.continues db c).calls_eq
  obtain ⟨call, h, hexecution⟩ := List.mem_filterMap.mp h
  have hcql : call.cql? ≠ none := by
    cases call with
    | execute text statement others outcome => simp [Call.cql?]
    | _ => cases hexecution
  obtain ⟨⟨before, hbefore, hnone⟩, hconfig, hcompile⟩ := findsQuery_spec db t.request c
  -- No statement goes to the session unless it was found and its values have cells.
  have hsilent {c' : Conversation World Prepared} (hcalls : c'.calls = c.calls ++ before)
      (hend : ((execute db t.request).runOn c).2 = c') : False := by
    rw [hend] at hmade
    rw [List.append_cancel_left (hmade.symm.trans hcalls)] at h
    exact hcql (hnone call h)
  rw [execute_eq_findsQuery, Action.runOn_bind] at hmade hsilent
  rcases hrun : (findsQuery db t.request).runOn c with ⟨error | query, c'⟩
  · rw [hrun] at hbefore hsilent
    exact (hsilent hbefore rfl).elim
  rw [hrun] at hbefore hsilent hmade hconfig hcompile
  simp only [Action.runOn_bind, runOn_bindCells] at hsilent hmade
  cases hcells : c'.client.cells? t.request.table query.params with
  | error error =>
    rw [hcells] at hsilent
    exact (hsilent hbefore rfl).elim
  | ok found =>
    rw [hcells] at hmade
    have hran := runs db (some t.request.operation) query.cql found (mintedFor query.params.size c')
    obtain ⟨after, hafter, hruns, -⟩ := hran.continues
    have hcalls := hafter.calls_eq
    have hminted : (mintedFor query.params.size c').calls = c'.calls := rfl
    rw [hminted, hbefore, List.append_assoc] at hcalls
    rw [List.append_cancel_left (hmade.symm.trans hcalls)] at h
    refine ⟨query, c', rfl, hconfig, hcompile query rfl, ?_⟩
    rcases List.mem_append.mp h with h | h
    · exact absurd (hnone call h) hcql
    · rcases hruns call h with ⟨outcome, rfl⟩ | ⟨statement, outcome, rfl⟩
      · cases hexecution
      · cases hexecution
        exact ⟨rfl, hcells⟩

/-- What a request compiles to is its statement under the conditions that wait. -/
theorem exists_statement_of_compile {c : Client Prepared} {query : Query}
    (h : c.compile request = .ok query) :
    ∃ s, request.statement c.pending = .ok s ∧ s.compile = query := by
  rw [compile] at h
  split at h
  · cases h
  · cases hs : request.statement c.chain.predicates with
    | error error =>
      rw [hs] at h
      cases h
    | ok s =>
      rw [hs] at h
      cases h
      exact ⟨s, hs, rfl⟩

end Client

/-- What two clients with different policies execute for one request are cells of the same values,
and they differ only where an identifier is minted. -/
theorem ApartFromPolicy.confinesAll {c d : Conversation World Prepared} (h : ApartFromPolicy c d)
    (hc : c.client.config.uuidWrites = .honor) (hd : d.client.config.uuidWrites = .generate)
    {t : Terminal} {cql cql' : String} {kept minted : List Cell}
    (hkept : (cql, kept) ∈ ((t.act db).calls c).filterMap Call.execution?)
    (hminted : (cql', minted) ∈ ((t.act db).calls d).filterMap Call.execution?) :
    ∃ s schema source, t.request.statement c.client.pending = .ok s ∧ s.compile.cql = cql ∧
      s.compile.cql = cql' ∧ Bind.ConfinesAll schema source s.binds kept minted := by
  obtain ⟨query, c', hrun, hconfig, hcompile, rfl, hcells⟩ := Client.bound_of_mem_executions hkept
  obtain ⟨query', d', hrun', hconfig', -, rfl, hcells'⟩ := Client.bound_of_mem_executions hminted
  -- Both have found the same statement and keep the same schema.
  obtain ⟨hquery, hafter⟩ := findsQuery db t.request h
  rw [hrun, hrun'] at hquery hafter
  cases hquery with
  | ok hquery =>
    subst hquery
    obtain ⟨s, hs, rfl⟩ := Client.exists_statement_of_compile hcompile
    have hschemas : c'.client.schemas = d'.client.schemas :=
      (congrArg Client.schemas hafter.client_eq :)
    rw [Client.cells?, hconfig, hc] at hcells
    rw [Client.cells?, hconfig', hd, ← hschemas] at hcells'
    change (BindParams.ofBinds s.binds).toCells _ _ _ = _ at hcells hcells'
    rw [BindParams.toCells_ofBinds] at hcells hcells'
    obtain ⟨made, hmade, hconfines⟩ := Bind.toCells_generate s.binds hcells
      fun i => d'.client.uuids (d'.client.minted + i)
    cases hmade.symm.trans hcells'
    exact ⟨s, _, _, hs, rfl, rfl, hconfines⟩

namespace Terminal

/-- **Minted identifiers stay in the columns that they are written to.** Values that have cells when
identifiers are kept have cells when they are minted, and only values written to columns of
identifiers get other ones. So two clients that are the same but for the policy, and that get as far
as executing the statement of the same operation, read and remove by the same cells, change rows
under the same conditions, and put the same cells into expressions. -/
theorem mints_written_only (db : Backend World Prepared) :
    (∀ (binds : List Bind) (schema : Option Schema) (source source' : UuidSource)
      (kept : List Cell), (BindParams.ofBinds binds).toCells schema .honor source' = .ok kept →
        ∃ minted, (BindParams.ofBinds binds).toCells schema .generate source = .ok minted ∧
          Bind.ConfinesAll schema source binds kept minted) ∧
    ∀ (t : Terminal) (c : Conversation World Prepared) (cql cql' : String)
      (kept minted : List Cell),
      (cql, kept) ∈ ((t.act db).calls (c.withPolicy .honor)).filterMap Call.execution? →
      (cql', minted) ∈ ((t.act db).calls (c.withPolicy .generate)).filterMap Call.execution? →
      ∃ s schema source, t.request.statement c.client.pending = .ok s ∧ s.compile.cql = cql ∧
        s.compile.cql = cql' ∧ Bind.ConfinesAll schema source s.binds kept minted ∧
        (t.request.operation = .select ∨ t.request.operation = .delete → minted = kept) ∧
        ∀ p, s.payload = some p →
          Bind.cellsOf p.binds (s.predicates.flatMap Predicate.binds) minted =
            Bind.cellsOf p.binds (s.predicates.flatMap Predicate.binds) kept ∧
          ∀ before column literal values after,
            p.entries = before ++ (column, .rawWith literal values) :: after →
            Bind.cellsOf (Payload.binds ⟨before⟩) ((Assignment.rawWith literal values).binds column)
                minted =
              Bind.cellsOf (Payload.binds ⟨before⟩)
                ((Assignment.rawWith literal values).binds column) kept := by
  constructor
  · intro binds schema source source' kept h
    rw [BindParams.toCells_ofBinds] at h
    obtain ⟨minted, hminted, hconfines⟩ := Bind.toCells_generate binds h source
    exact ⟨minted, (BindParams.toCells_ofBinds binds schema .generate source).trans hminted,
      hconfines⟩
  · intro t c cql cql' kept minted hkept hminted
    obtain ⟨s, schema, source, hs, hcql, hcql', hconfines⟩ :=
      (ApartFromPolicy.withPolicy c .honor .generate).confinesAll rfl rfl hkept hminted
    refine ⟨s, schema, source, hs, hcql, hcql', hconfines, ?_, ?_⟩
    -- A statement without a payload has no values but those of its conditions.
    · intro hoperation
      apply hconfines.eq_of_operands
      have hpayload : s.payload = none := by
        generalize t.request = request at hs hoperation
        cases request with
        | select table limit columns | delete table limit =>
          cases hs
          rfl
        | insert table payload | update table payload => simp [Request.operation] at hoperation
      intro b hb
      rw [Statement.binds, hpayload] at hb
      exact Predicate.role_of_mem_binds hb
    · intro p hp
      have hbinds : s.binds = p.binds ++ s.predicates.flatMap Predicate.binds := by
        rw [Statement.binds, hp]
      constructor
      · rw [hbinds, ← List.append_nil (p.binds ++ _)] at hconfines
        exact hconfines.cellsOf_eq fun b hb => Predicate.role_of_mem_binds hb
      · intro before column literal values after hentries
        -- In front of an expression are the values of the columns before it, behind it all others.
        have hsplit : s.binds = Payload.binds ⟨before⟩ ++
            (Assignment.rawWith literal values).binds column ++
              (Payload.binds ⟨after⟩ ++ s.predicates.flatMap Predicate.binds) := by
          rw [hbinds, Payload.binds, hentries]
          simp [Payload.binds]
        rw [hsplit] at hconfines
        exact hconfines.cellsOf_eq fun b hb => Assignment.role_of_mem_rawWith hb

/-- Whatever a client does with identifiers, rows are changed under the identifier that is asked
for, and the expression keeps its own. -/
theorem mints_written_only_update :
    let bytes : List UInt8 := [0, 1, 2, 3, 4, 5, 70, 7, 8, 9, 10, 11, 12, 13, 14, 15]
    let given : Cell := .uuid ⟨bytes, rfl⟩
    let c₀ := Conversation.fresh {} { tables := [("users", [("id", .uuid), ("token", .uuid)])] }
    let c := { c₀ with client := c₀.client.whereEqual "id" (.bytes bytes) }
    let t := update "users" ⟨[("token", .value .null), ("id", .rawWith "f(?)" [.bytes bytes])]⟩
    let cql := "UPDATE users SET token = ?, id = f(?) WHERE  id = ?"
    let binds : List Bind := [⟨"token", .null, .written⟩, ⟨"id", .bytes bytes, .operand⟩,
      ⟨"id", .bytes bytes, .operand⟩]
    (((t.act Memory.backend).calls (c.withPolicy .honor)).filterMap Call.execution? =
        [(cql, [.null, given, given])]) ∧
      (((t.act Memory.backend).calls (c.withPolicy .generate)).filterMap Call.execution? =
        [(cql, [.uuid (default : Mint).random, given, given])]) ∧
      ∃ schema source, Bind.ConfinesAll schema source binds [.null, given, given]
        [.uuid (default : Mint).random, given, given] := by
  intro bytes given c₀ c t cql binds
  have hkept : ((t.act Memory.backend).calls (c.withPolicy .honor)).filterMap Call.execution? =
      [(cql, [.null, given, given])] := by
    decide +kernel
  have hminted : ((t.act Memory.backend).calls (c.withPolicy .generate)).filterMap
      Call.execution? = [(cql, [.uuid (default : Mint).random, given, given])] := by
    decide +kernel
  obtain ⟨-, hruns⟩ := mints_written_only Memory.backend
  obtain ⟨s, schema, source, hs, -, -, hconfines, -⟩ := hruns t c cql cql _ _
    (hkept ▸ List.mem_singleton_self _) (hminted ▸ List.mem_singleton_self _)
  cases hs
  exact ⟨hkept, hminted, schema, source, hconfines⟩

end Terminal

end WideColumn
