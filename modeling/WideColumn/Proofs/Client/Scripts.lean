import WideColumn.Proofs.Client.Run

/-! # Scripts

Commands one after the other with the answers to them, while the database changes by itself. -/

namespace WideColumn

variable {World Prepared : Type}

/-- A command and what it came to. -/
structure Answer : Type 1 where
  command : Command
  outcome : Except Error command.Result

/-- What happens to a client and its database. -/
inductive Move (World : Type) : Type 1
  | command (command : Command)
  /-- The database changes by itself. -/
  | drift (change : World → World)

namespace Conversation

/-- What a script comes to: the answers to its commands in order, and the conversation after it. -/
def play (db : Backend World Prepared) :
    List (Move World) → Conversation World Prepared → List Answer × Conversation World Prepared
  | [], c => ([], c)
  | .command command :: rest, c =>
    let (outcome, c) := (command.carryOut db).runOn c
    let (answers, c) := play db rest c
    (⟨command, outcome⟩ :: answers, c)
  | .drift change :: rest, c => play db rest { c with world := change c.world }

variable {db : Backend World Prepared} {c : Conversation World Prepared}

theorem play_command (command : Command) (rest : List (Move World)) :
    play db (.command command :: rest) c =
      (⟨command, ((command.carryOut db).runOn c).1⟩ ::
        (play db rest ((command.carryOut db).runOn c).2).1,
      (play db rest ((command.carryOut db).runOn c).2).2) := rfl

theorem play_drift (change : World → World) (rest : List (Move World)) :
    play db (.drift change :: rest) c = play db rest { c with world := change c.world } := rfl

/-- Calls are never taken back. -/
theorem invariant_calls (db : Backend World Prepared) (calls : List (Call Prepared)) :
    Invariant db fun c => calls <+: c.calls where
  drift world h := h
  rechain chain h := h
  report notice h := by
    rw [calls_append]
    exact h.trans (List.prefix_append _ _)
  mint count h := h
  connects conn h := by
    obtain ⟨made, hmade, -⟩ := conn.continues
    exact h.trans (hmade.calls_eq ▸ List.prefix_append _ _)
  loads load h := by
    obtain ⟨made, hmade, -⟩ := load.continues
    exact h.trans (hmade.calls_eq ▸ List.prefix_append _ _)
  runs run h := by
    obtain ⟨made, hmade, -⟩ := run.continues
    exact h.trans (hmade.calls_eq ▸ List.prefix_append _ _)

theorem calls_prefix_play (script : List (Move World)) :
    ∀ c : Conversation World Prepared, c.calls <+: (play db script c).2.calls := by
  induction script with
  | nil => exact fun c => List.prefix_rfl
  | cons move rest ih =>
    intro c
    cases move with
    | command command =>
      have hcommand := (invariant_calls db c.calls).command command List.prefix_rfl
      rw [command.runOn_act_snd] at hcommand
      exact hcommand.trans (ih _)
    | drift change => exact ih { c with world := change c.world }

end Conversation

end WideColumn
