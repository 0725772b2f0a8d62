import WideColumn.Backend.Memory
import WideColumn.Client.Execution

/-! # What databases do

Nothing is known of a database but its answers. States that no calls can tell apart are as good as
equal, and what may be relied on is said of the answers alone. -/

namespace WideColumn.Backend

variable {World Prepared : Type} {db : Backend World Prepared} {w w₁ w₂ : World}

/-! ## States that answer alike -/

/-- Whether related states give the same answer to every call and are related after it. -/
structure Bisimulation (db : Backend World Prepared) (R : World → World → Prop) : Prop where
  connect : ∀ {w w'}, R w w' →
    (db.connect w).1 = (db.connect w').1 ∧ R (db.connect w).2 (db.connect w').2
  columns : ∀ table {w w'}, R w w' →
    (db.columns table w).1 = (db.columns table w').1 ∧
      R (db.columns table w).2 (db.columns table w').2
  prepare : ∀ cql {w w'}, R w w' →
    (db.prepare cql w).1 = (db.prepare cql w').1 ∧ R (db.prepare cql w).2 (db.prepare cql w').2
  execute : ∀ statement cells {w w'}, R w w' →
    (db.execute statement cells w).1 = (db.execute statement cells w').1 ∧
      R (db.execute statement cells w).2 (db.execute statement cells w').2

namespace Bisimulation

variable {R S : World → World → Prop}

theorem eq (db : Backend World Prepared) : db.Bisimulation Eq where
  connect := by
    rintro w _ rfl
    exact ⟨rfl, rfl⟩
  columns := by
    rintro table w _ rfl
    exact ⟨rfl, rfl⟩
  prepare := by
    rintro cql w _ rfl
    exact ⟨rfl, rfl⟩
  execute := by
    rintro statement cells w _ rfl
    exact ⟨rfl, rfl⟩

theorem swap (h : db.Bisimulation R) : db.Bisimulation fun w w' => R w' w where
  connect hR := (h.connect hR).imp_left Eq.symm
  columns table _ _ hR := (h.columns table hR).imp_left Eq.symm
  prepare cql _ _ hR := (h.prepare cql hR).imp_left Eq.symm
  execute statement cells _ _ hR := (h.execute statement cells hR).imp_left Eq.symm

theorem comp (h : db.Bisimulation R) (h' : db.Bisimulation S) :
    db.Bisimulation fun w w' => ∃ v, R w v ∧ S v w' where
  connect := by
    rintro w w' ⟨v, hR, hS⟩
    obtain ⟨hleft, hR'⟩ := h.connect hR
    obtain ⟨hright, hS'⟩ := h'.connect hS
    exact ⟨hleft.trans hright, _, hR', hS'⟩
  columns := by
    rintro table w w' ⟨v, hR, hS⟩
    obtain ⟨hleft, hR'⟩ := h.columns table hR
    obtain ⟨hright, hS'⟩ := h'.columns table hS
    exact ⟨hleft.trans hright, _, hR', hS'⟩
  prepare := by
    rintro cql w w' ⟨v, hR, hS⟩
    obtain ⟨hleft, hR'⟩ := h.prepare cql hR
    obtain ⟨hright, hS'⟩ := h'.prepare cql hS
    exact ⟨hleft.trans hright, _, hR', hS'⟩
  execute := by
    rintro statement cells w w' ⟨v, hR, hS⟩
    obtain ⟨hleft, hR'⟩ := h.execute statement cells hR
    obtain ⟨hright, hS'⟩ := h'.execute statement cells hS
    exact ⟨hleft.trans hright, _, hR', hS'⟩

end Bisimulation

/-- Whether no calls, however many, can tell two states apart. -/
def Indistinguishable (db : Backend World Prepared) (w w' : World) : Prop :=
  ∃ R, db.Bisimulation R ∧ R w w'

namespace Indistinguishable

theorem refl (w : World) : db.Indistinguishable w w := ⟨Eq, .eq db, rfl⟩

theorem symm (h : db.Indistinguishable w w₁) : db.Indistinguishable w₁ w := by
  obtain ⟨R, bisim, hR⟩ := h
  exact ⟨_, bisim.swap, hR⟩

theorem trans (h : db.Indistinguishable w w₁) (h₁ : db.Indistinguishable w₁ w₂) :
    db.Indistinguishable w w₂ := by
  obtain ⟨R, bisim, hR⟩ := h
  obtain ⟨R₁, bisim₁, hR₁⟩ := h₁
  exact ⟨_, bisim.comp bisim₁, w₁, hR, hR₁⟩

/-- States that no calls can tell apart are related so after each call. -/
theorem bisimulation (db : Backend World Prepared) : db.Bisimulation db.Indistinguishable where
  connect := by
    rintro w w' ⟨R, bisim, hR⟩
    exact ⟨(bisim.connect hR).1, R, bisim, (bisim.connect hR).2⟩
  columns := by
    rintro table w w' ⟨R, bisim, hR⟩
    exact ⟨(bisim.columns table hR).1, R, bisim, (bisim.columns table hR).2⟩
  prepare := by
    rintro cql w w' ⟨R, bisim, hR⟩
    exact ⟨(bisim.prepare cql hR).1, R, bisim, (bisim.prepare cql hR).2⟩
  execute := by
    rintro statement cells w w' ⟨R, bisim, hR⟩
    exact ⟨(bisim.execute statement cells hR).1, R, bisim, (bisim.execute statement cells hR).2⟩

end Indistinguishable

/-- Whether preparing a statement goes unnoticed by all later calls. -/
def PreparesUnnoticed (db : Backend World Prepared) : Prop :=
  ∀ cql w statement, (db.prepare cql w).1 = .ok statement →
    db.Indistinguishable (db.prepare cql w).2 w

/-- A database in memory is not changed by preparing a statement. -/
theorem preparesUnnoticed_memory : Memory.backend.PreparesUnnoticed :=
  fun _ w _ _ => .refl w

/-! ## Answers and cells -/

/-- Whether the outcome of a statement does not depend on its cells, as long as there are as many of
them. -/
def IgnoresCells (db : Backend World Prepared) : Prop :=
  ∀ statement cells cells' w, cells.length = cells'.length →
    (db.execute statement cells w).1 = (db.execute statement cells' w).1

/-- A database in memory does not look at the cells. -/
theorem ignoresCells_memory : Memory.backend.IgnoresCells :=
  fun _ _ _ _ _ => rfl

/-! ## Answers that do not depend on the past -/

/-- Whether a session can always be opened and the catalog always has the same columns, and all else
is answered by the call alone but for the part of the state that statements are answered from, which
only they change. -/
structure Predictable {Queue : Type} (db : Backend World Prepared)
    (catalog : String → List Column) (queue : World → Queue) : Prop where
  connect : ∀ w, (db.connect w).1 = .ok () ∧ queue (db.connect w).2 = queue w
  columns : ∀ table w, (db.columns table w).1 = .ok (catalog table) ∧
    queue (db.columns table w).2 = queue w
  prepare : ∀ cql w w', (db.prepare cql w).1 = (db.prepare cql w').1
  queue_prepare : ∀ cql w, queue (db.prepare cql w).2 = queue w
  execute : ∀ statement cells w w', queue w = queue w' →
    (db.execute statement cells w).1 = (db.execute statement cells w').1

/-- A database with a catalog that never changes, which answers with results queued beforehand. -/
def queued (catalog : String → List Column) : Backend (List ResultSet) String where
  connect w := (.ok (), w)
  columns table w := (.ok (catalog table), w)
  prepare cql w := (.ok cql, w)
  execute _ _ w := (.ok (w.headD {}), w.tail)

theorem predictable_queued (catalog : String → List Column) :
    (queued catalog).Predictable catalog id where
  connect _ := ⟨rfl, rfl⟩
  columns _ _ := ⟨rfl, rfl⟩
  prepare _ _ _ := rfl
  queue_prepare _ _ := rfl
  execute := by
    rintro statement cells w _ rfl
    rfl

/-- What comes of a text and its cells: the statement is prepared and executed, and an error says
which text it is about. -/
def answer (db : Backend World Prepared) (w : World) (cql : String) (cells : List Cell) :
    Except Error ResultSet := do
  let statement ← (db.prepare cql w).1.mapError (Client.prepareError cql)
  (db.execute statement cells w).1.mapError (Client.executionError cql)

end WideColumn.Backend
