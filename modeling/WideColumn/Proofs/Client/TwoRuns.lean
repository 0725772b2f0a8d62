import WideColumn.Proofs.Client.Phases

/-! # Two runs side by side

One action in one conversation next to another action in another conversation. They are alike if
from related conversations they come to related ones, with related results or the same error. There
is a rule for each way in which actions are put together, and from these rules a request is alike up
to its statement, whatever the relation is, once opening the session and asking the catalog are. -/

namespace WideColumn

variable {World Prepared α β γ δ : Type}

/-! ## Outcomes -/

/-- Two outcomes with related results or with the same error. -/
inductive Outcomes (Q : α → β → Prop) : Except Error α → Except Error β → Prop
  | ok {a : α} {b : β} (h : Q a b) : Outcomes Q (.ok a) (.ok b)
  | error (error : Error) : Outcomes Q (.error error) (.error error)

namespace Outcomes

variable {Q : α → β → Prop} {r : Except Error α} {r' : Except Error β}

/-- What is made of related results may be the same. -/
theorem map_eq (h : Outcomes Q r r') {f : α → γ} {g : β → γ} (hfg : ∀ a b, Q a b → f a = g b) :
    r.map f = r'.map g := by
  cases h with
  | ok h => exact congrArg Except.ok (hfg _ _ h)
  | error error => rfl

theorem of_eq {r r' : Except Error α} (h : r = r') : Outcomes Eq r r' := by
  subst h
  cases r with
  | ok a => exact .ok rfl
  | error error => exact .error error

/-- Outcomes are related by what is made of their results. -/
theorem of_map_eq {f : α → γ} {r r' : Except Error α} (h : r.map f = r'.map f) :
    Outcomes (fun a b => f a = f b) r r' := by
  cases r with
  | error error =>
    cases r' with
    | error error' =>
      cases h
      exact .error error
    | ok b => cases h
  | ok a =>
    cases r' with
    | error error' => cases h
    | ok b => exact .ok (Except.ok.inj h)

theorem eq {r r' : Except Error α} (h : Outcomes Eq r r') : r = r' := by
  cases h with
  | ok h => rw [h]
  | error error => rfl

end Outcomes

/-! ## Actions -/

/-- A relation between conversations. -/
abbrev Conversation.Link (World Prepared : Type) :=
  Conversation World Prepared → Conversation World Prepared → Prop

open Conversation (Link)

/-- Whether two actions lead from conversations in one relation to conversations in another one,
with related outcomes. -/
def Action.Alike (R S : Link World Prepared) (Q : α → β → Prop) (x : Action World Prepared α)
    (y : Action World Prepared β) : Prop :=
  ∀ ⦃c d⦄, R c d → Outcomes Q (x.runOn c).1 (y.runOn d).1 ∧ S (x.runOn c).2 (y.runOn d).2

namespace Action.Alike

variable {R S T : Link World Prepared} {Q : α → β → Prop} {Q' : γ → δ → Prop}
  {x : Action World Prepared α} {y : Action World Prepared β}

theorem pure {a : α} {b : β} (h : Q a b) : Alike R R Q (pure a) (pure b) :=
  fun _ _ hR => ⟨.ok h, hR⟩

theorem throw (error : Error) : Alike R R Q (throw error) (throw error) :=
  fun _ _ hR => ⟨.error error, hR⟩

theorem liftExcept {r : Except Error α} {r' : Except Error β} (h : Outcomes Q r r') :
    Alike R R Q (liftExcept r) (liftExcept r') := by
  intro c d hR
  rw [runOn_liftExcept, runOn_liftExcept]
  exact ⟨h, hR⟩

/-- What two actions read from the client is what its relation says about it. -/
theorem client {Q : Client Prepared → Client Prepared → Prop}
    (h : ∀ c d, R c d → Q c.client d.client) : Alike R R Q client client :=
  fun c d hR => ⟨.ok (h c d hR), hR⟩

/-- One action after another, where it is known how the second run ends. That is known of its last
part too. After an error, the relation of the first actions has to do. -/
theorem bind_ending {K : Conversation World Prepared → Prop} {f : α → Action World Prepared γ}
    {g : β → Action World Prepared δ} (h : Alike R S Q x y)
    (hf : ∀ a b, Q a b → Alike (fun c d => S c d ∧ K ((g b).runOn d).2) T Q' (f a) (g b))
    (hST : ∀ c d, S c d → T c d) :
    Alike (fun c d => R c d ∧ K ((y >>= g).runOn d).2) T Q' (x >>= f) (y >>= g) := by
  rintro c d ⟨hR, hK⟩
  obtain ⟨houtcome, hS⟩ := h hR
  rw [runOn_bind] at hK
  rw [runOn_bind, runOn_bind]
  rcases hx : x.runOn c with ⟨r, c₁⟩
  rcases hy : y.runOn d with ⟨r', d₁⟩
  rw [hx, hy] at houtcome hS
  rw [hy] at hK
  -- After an error the second parts are not reached, and the runs end where the first ones did.
  cases houtcome with
  | ok hQ => exact hf _ _ hQ ⟨hS, hK⟩
  | error error => exact ⟨.error error, hST _ _ hS⟩

/-- One action after another, whatever the end. -/
theorem bind {f : α → Action World Prepared γ} {g : β → Action World Prepared δ}
    (h : Alike R S Q x y) (hf : ∀ a b, Q a b → Alike S T Q' (f a) (g b))
    (hST : ∀ c d, S c d → T c d) : Alike R T Q' (x >>= f) (y >>= g) := by
  intro c d hR
  have hbind := h.bind_ending (K := fun _ => True) (fun a b hQ _ _ hS => hf a b hQ hS.1) hST
  exact hbind ⟨hR, trivial⟩

/-- One action after another under one relation. -/
theorem andThen {f : α → Action World Prepared γ} {g : β → Action World Prepared δ}
    (h : Alike R R Q x y) (hf : ∀ a b, Q a b → Alike R R Q' (f a) (g b)) :
    Alike R R Q' (x >>= f) (y >>= g) :=
  h.bind hf fun _ _ hR => hR

end Action.Alike

/-- Running a statement once it has been announced. -/
theorem Client.runOn_runStatement (db : Backend World Prepared) (operation : Option Operation)
    (cql : String) (cells : List Cell) (c : Conversation World Prepared) :
    (runStatement db operation cql cells).runOn c =
      (do
        let statement ← prepare db cql
        match ← Action.call (db.execute statement cells) (.execute cql statement cells) with
        | .ok result => return result
        | .error error =>
          count .countFailure
          Action.report (.executionFailed (executionError cql error))
          throw (executionError cql error)).runOn (announced operation cql cells c) := rfl

/-! ## Up to the statement -/

open WideColumn.Action

/-- A relation between conversations that requests keep up to their statements. The clients agree in
what opening the session and loading a schema look at, and go on to be related after the same calls,
reports and changes. -/
structure Likeness (db : Backend World Prepared) (R : Link World Prepared) : Prop where
  connection_eq : ∀ c d, R c d → c.client.connection = d.client.connection
  schemas_eq : ∀ c d, R c d → c.client.schemas = d.client.schemas
  connect : Alike R R Eq (call db.connect .connect) (call db.connect .connect)
  columns : ∀ table, Alike R R Eq (call (db.columns table) (.columns table))
    (call (db.columns table) (.columns table))
  report : ∀ notice, Alike R R Eq (report notice) (report notice)
  setConnection : ∀ connection : Connection, Alike R R Eq
    (modifyClient fun c => { c with connection }) (modifyClient fun c => { c with connection })
  countRefresh : Alike R R Eq (Client.count .countRefresh) (Client.count .countRefresh)
  keepSchema : ∀ schema, Alike R R Eq
    (modifyClient fun c => { c with schemas := c.schemas.replace schema })
    (modifyClient fun c => { c with schemas := c.schemas.replace schema })

namespace Likeness

variable {db : Backend World Prepared} {R : Link World Prepared}

/-- Sessions are opened alike. -/
theorem opens (h : Likeness db R) : Alike R R Eq (Client.connect db) (Client.connect db) := by
  unfold Client.connect
  refine (Alike.client (Q := fun a b => a.connection = b.connection) h.connection_eq).andThen
    fun a b hab => ?_
  rw [hab]
  cases b.connection with
  | ready => exact .pure rfl
  | failed message => exact .throw _
  | idle =>
    -- Both make the same call, so both are ready or both have failed.
    refine h.connect.andThen fun outcome _ houtcome => ?_
    subst houtcome
    cases outcome with
    | ok _ => exact (h.report _).andThen fun _ _ _ => h.setConnection .ready
    | error error =>
      exact (h.report _).andThen fun _ _ _ => (h.setConnection _).andThen fun _ _ _ => .throw _

/-- Schemas are loaded alike. -/
theorem loads (h : Likeness db R) (table : String) :
    Alike R R Eq (Client.loadSchema db table) (Client.loadSchema db table) := by
  unfold Client.loadSchema
  refine (Alike.client (Q := fun a b => a.schemas = b.schemas) h.schemas_eq).andThen
    fun a b hab => ?_
  rw [hab]
  split
  · refine (h.columns table).andThen fun outcome _ houtcome => ?_
    refine (Alike.liftExcept (.of_eq houtcome)).andThen fun columns _ hcolumns => ?_
    subst hcolumns
    refine h.countRefresh.andThen fun _ _ _ => ?_
    split
    · exact (Alike.throw (Q := Eq) _).andThen fun _ _ _ =>
        (h.report _).andThen fun _ _ _ => h.keepSchema _
    · exact (h.report _).andThen fun _ _ _ => h.keepSchema _
  · exact .pure rfl

/-- Statements are found alike if they are compiled alike. -/
theorem finds (h : Likeness db R) {request request' : Request} {Q : Query → Query → Prop}
    (htable : request.table = request'.table) (hoperation : request.operation = request'.operation)
    (hcompile : ∀ c d, R c d → Outcomes Q (c.client.compile request) (d.client.compile request'))
    (hsize : ∀ query query', Q query query' →
      query.params.isEmpty = query'.params.isEmpty) :
    Alike R R Q (Client.findStatement db request) (Client.findStatement db request') := by
  let compiled (a b : Client Prepared) := Outcomes Q (a.compile request) (b.compile request')
  unfold Client.findStatement
  rw [htable, hoperation]
  split
  · refine (Alike.client (Q := compiled) hcompile).andThen fun a b hab => ?_
    refine (Alike.liftExcept hab).andThen fun query query' hquery => ?_
    rw [hsize query query' hquery]
    split
    · exact .pure hquery
    · exact (h.loads _).andThen fun _ _ _ => .pure hquery
  · refine (h.loads _).andThen fun _ _ _ => ?_
    exact (Alike.client (Q := compiled) hcompile).andThen fun a b hab => .liftExcept hab

end Likeness

end WideColumn
