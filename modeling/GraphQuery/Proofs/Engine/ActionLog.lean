import GraphQuery.Proofs.Engine.StoredSets
import GraphQuery.Proofs.Filter.Action

/-!
# The action log — the history of filter sets is what has been committed

An engine starts without sets, and with an empty history of any size.  Its sets are changed again and again,
while the store refuses to be written to now and then, and names are not known or configurations cannot be
evaluated.  `Desk.log` gathers the actions of the changes that commit:

- the history is the newest part of the log, as much of it as there is room for;
- as long as all of it fits and nothing has been forgotten or imported, the history tells what the sets are:
  replayed from the oldest action on, it gives their names in order, their configurations, and which of them
  are active.

One step either leaves everything as it is or adds one action to the log and to the history
(`Desk.IsLogged.afterStep`, `Desk.IsTold.afterStep`); a run follows by induction (`Engine.history_isActionLog`).
-/

namespace GraphQuery

/-- A change commits if its attempt has something to make. -/
instance SetChange.decidableTakesEffect (now : Timestamp) (shelf : FilterShelf) (change : SetChange) :
    Decidable (change.TakesEffect now shelf) :=
  decidable_of_iff ((change.attempt now shelf).toOption.join.isSome = true) <| by
    rw [TakesEffect]
    rcases change.attempt now shelf with e | _ | ⟨sets, store⟩ <;> simp [Except.toOption]

namespace FilterHistory

/-- The newest actions of a log, as many as there is room for. -/
def newest (capacity : Option Nat) (log : List FilterAction) : List FilterAction :=
  match capacity with
  | some n => log.take n
  | none => log

/-- A history that has kept the newest actions keeps them when one more is recorded. -/
theorem push_newest (capacity : Option Nat) (log : List FilterAction) (a : FilterAction) :
    push ⟨capacity, newest capacity log⟩ a = ⟨capacity, newest capacity (a :: log)⟩ := by
  cases capacity with
  | none =>
      rfl
  | some n =>
      cases n with
      | zero =>
          rfl
      | succ n =>
          show FilterHistory.mk (some (n + 1)) ((a :: log.take (n + 1)).take (n + 1)) = _
          rw [List.take_succ_cons, List.take_take, Nat.min_eq_left (Nat.le_succ n)]
          rfl

theorem newest_eq_self {capacity : Option Nat} {log : List FilterAction} (h : ∀ n ∈ capacity, log.length ≤ n) :
    newest capacity log = log := by
  cases capacity with
  | none =>
      rfl
  | some n =>
      exact List.take_of_length_le (h n rfl)

end FilterHistory

open FilterHistory

/-- What happens to the filter sets of an engine: a change, or their history is forgotten. -/
inductive LogStep where
  | change (call : SetCall)
  | forget

namespace LogStep

def IsPlain : LogStep → Prop
  | change call => call.IsPlain
  | forget => True

/-- Whether a step leaves in the history all that it does to the sets. -/
def IsTold : LogStep → Prop
  | change call => ¬ call.change.IsImport
  | forget => False

end LogStep

namespace Desk

instance decidableCommits (desk : Desk) (call : SetCall) : Decidable (desk.Commits call) :=
  SetChange.decidableTakesEffect _ _ _

/-- The desk after a step. -/
def afterStep (desk : Desk) : LogStep → Desk
  | .change call => desk.afterCall call
  | .forget =>
    (Engine.runAt (Engine.withSets fun _ _ =>
      modify fun shelf => { shelf with history := shelf.history.clear }) desk).2

def afterSteps (desk : Desk) (steps : List LogStep) : Desk := steps.foldl afterStep desk

/-- The log after a step: one action more for a change that commits. -/
def logged (desk : Desk) (log : List FilterAction) : LogStep → List FilterAction
  | .change call =>
    if desk.Commits call then
      call.change.action call.runtime.reader call.now desk.engine.sets :: log
    else log
  | .forget => []

/-- The actions of the changes that have been committed since the history was forgotten, newest first. -/
def log (desk : Desk) (before : List FilterAction) : List LogStep → List FilterAction
  | [] => before
  | step :: rest => (desk.afterStep step).log (desk.logged before step) rest

/-- Plain sets, whose history is the newest part of a log. -/
structure IsLogged (capacity : Option Nat) (desk : Desk) (log : List FilterAction) : Prop where
  plain : desk.engine.sets.IsPlain
  history : desk.engine.setHistory = ⟨capacity, newest capacity log⟩

/-- A log tells what the sets are. -/
def IsTold (desk : Desk) (log : List FilterAction) : Prop :=
  log.reverse.foldl SetView.replay [] = desk.engine.sets.view

variable {capacity : Option Nat} {desk : Desk} {before : List FilterAction} {step : LogStep}

/-! ## One step -/

/-- A plain call leaves sets and history as they are, or it makes its sets current and records its action. -/
theorem afterCall_cases (hsets : desk.engine.sets.IsPlain) {call : SetCall} (hcall : call.IsPlain) :
    (¬ desk.Commits call ∧ (desk.afterCall call).engine = desk.engine) ∨
      (desk.Commits call ∧ ∃ sets,
        call.change.proposed call.runtime.reader call.now desk.engine.sets = .ok (some sets) ∧
        (desk.afterCall call).engine =
          { desk.engine with
            sets
            setHistory := desk.engine.setHistory.push
              (call.change.action call.runtime.reader call.now desk.engine.sets) }) := by
  have hrun : (FilterShelf.runAt (call.change.run call.now (desk.facing call).snapshot)
      (desk.facing call).shelf).2 = _ := SetChange.runAt_run hcall.change hsets
  have hafter : (desk.afterCall call).engine =
      ((desk.facing call).withShelf (FilterShelf.runAt
        (call.change.run call.now (desk.facing call).snapshot) (desk.facing call).shelf).2).engine := rfl
  rw [hafter, hrun]
  rcases hattempt : call.change.attempt call.now (desk.facing call).shelf with
    e | _ | ⟨sets, store⟩
  -- A call that fails or has nothing to do has not committed.
  · refine Or.inl ⟨?_, rfl⟩
    rintro ⟨sets, store, heffect⟩
    cases hattempt.symm.trans heffect
  · refine Or.inl ⟨?_, rfl⟩
    rintro ⟨sets, store, heffect⟩
    cases hattempt.symm.trans heffect
  · exact Or.inr ⟨⟨sets, store, hattempt⟩, sets, (FilterShelf.attempted_eq_some hattempt).1, rfl⟩

/-- A plain step keeps the history the newest part of the log. -/
theorem IsLogged.afterStep (h : IsLogged capacity desk before) (hstep : step.IsPlain) :
    IsLogged capacity (desk.afterStep step) (desk.logged before step) := by
  cases step with
  | change call =>
      have hcall : call.IsPlain := hstep
      rw [Desk.afterStep, logged]
      rcases afterCall_cases h.plain hcall with ⟨hnone, hengine⟩ | ⟨hsome, sets, hproposed, hengine⟩
      · rw [if_neg hnone]
        exact ⟨hengine ▸ h.plain, hengine ▸ h.history⟩
      · rw [if_pos hsome]
        refine ⟨?_, ?_⟩
        · rw [hengine]
          exact SetChange.isPlain_of_proposed hcall.times hcall.now hcall.change h.plain hproposed
        · rw [hengine, h.history]
          exact push_newest capacity before _
  | forget =>
      refine ⟨h.plain, ?_⟩
      show desk.engine.setHistory.clear = _
      rw [h.history]
      cases capacity with
      | none =>
          rfl
      | some n =>
          show FilterHistory.mk (some n) [] = ⟨some n, [].take n⟩
          rw [List.take_nil]

/-- A step that leaves in the history all that it does keeps the log telling what the sets are. -/
theorem IsTold.afterStep (h : desk.IsTold before) (hsets : desk.engine.sets.IsPlain) (hstep : step.IsPlain)
    (htold : step.IsTold) : (desk.afterStep step).IsTold (desk.logged before step) := by
  cases step with
  | change call =>
      have hcall : call.IsPlain := hstep
      rw [Desk.afterStep, logged]
      rcases afterCall_cases hsets hcall with ⟨hnone, hengine⟩ | ⟨hsome, sets, hproposed, hengine⟩
      · rw [if_neg hnone, IsTold, hengine]
        exact h
      -- The new action is replayed last, on what the older ones have come to.
      · rw [if_pos hsome, IsTold, hengine, List.reverse_cons, List.foldl_append, h]
        exact SetChange.replay_action hcall.change htold hproposed
  | forget =>
      exact absurd htold not_false

/-! ## Runs -/

theorem IsLogged.afterSteps (h : IsLogged capacity desk before) {steps : List LogStep}
    (hsteps : ∀ step ∈ steps, step.IsPlain) :
    IsLogged capacity (desk.afterSteps steps) (desk.log before steps) := by
  induction steps generalizing desk before with
  | nil =>
      exact h
  | cons step rest ih =>
      exact ih (h.afterStep (hsteps step List.mem_cons_self))
        fun other hother => hsteps other (List.mem_cons_of_mem _ hother)

theorem IsTold.afterSteps (h : desk.IsTold before) (hlogged : IsLogged capacity desk before)
    {steps : List LogStep} (hsteps : ∀ step ∈ steps, step.IsPlain) (htold : ∀ step ∈ steps, step.IsTold) :
    (desk.afterSteps steps).IsTold (desk.log before steps) := by
  induction steps generalizing desk before with
  | nil =>
      exact h
  | cons step rest ih =>
      have hstep := hsteps step List.mem_cons_self
      exact ih (h.afterStep hlogged.plain hstep (htold step List.mem_cons_self)) (hlogged.afterStep hstep)
        (fun other hother => hsteps other (List.mem_cons_of_mem _ hother))
        fun other hother => htold other (List.mem_cons_of_mem _ hother)

end Desk

namespace Engine

/-- The history of an engine that starts without sets is the newest part of the log of committed changes.  While
it holds all of them, nothing has been forgotten and nothing has been imported, replaying it from the oldest action
on gives the names of the sets in order, their configurations, and which of them are active. -/
theorem history_isActionLog {first : Desk} {capacity : Option Nat} (hsets : first.engine.sets = [])
    (hhistory : first.engine.setHistory = ⟨capacity, []⟩) {steps : List LogStep}
    (hsteps : ∀ step ∈ steps, step.IsPlain) :
    (first.afterSteps steps).engine.setHistory.actions = newest capacity (first.log [] steps) ∧
      ((∀ step ∈ steps, step.IsTold) → (∀ n ∈ capacity, (first.log [] steps).length ≤ n) →
        (first.afterSteps steps).engine.setHistory.actions.reverse.foldl SetView.replay [] =
          (first.afterSteps steps).engine.sets.view) := by
  have hempty : newest capacity [] = [] := newest_eq_self fun n _ => Nat.zero_le n
  have hlogged : Desk.IsLogged capacity first [] := by
    refine ⟨hsets ▸ .nil, ?_⟩
    rw [hhistory, hempty]
  have hlast := hlogged.afterSteps hsteps
  refine ⟨congrArg FilterHistory.actions hlast.history, ?_⟩
  intro htold hroom
  have hstart : first.IsTold [] := by
    rw [Desk.IsTold, hsets]
    rfl
  rw [hlast.history, newest_eq_self hroom]
  exact hstart.afterSteps hlogged hsteps htold

/-! ### A run in which some calls fail -/

/-- An engine on a graph of its own, at an empty store. -/
def untouchedDesk : Desk :=
  ⟨blank 0 {} .owned (FilterShelf.loneNode "a") (.withCapacity 20), emptyAround⟩

/-- Criteria that are a number: a JSON object that cannot be evaluated. -/
def numberConfig : Value := .mapping [("nodes", .int 5)]

/-- A set is made, first in vain; it is switched to the state that it is in; an unknown one is updated; another
set is made, whose configuration cannot be evaluated; the first one is removed and the other one switched. -/
def someSteps : List LogStep :=
  [⟨.create (.text "x") numberConfig, someNoon, .null, [], true, .usual⟩,
    ⟨.create (.text "x") (.mapping []), someNoon, .null, [], false, .usual⟩,
    ⟨.toggle (.text "x") (.bool true), someNoon, .null, [], false, .usual⟩,
    ⟨.update (.text "y") (.mapping []), someNoon, .null, [], false, .usual⟩,
    ⟨.create (.text "z") numberConfig, someNoon, .null, [], false, .usual⟩,
    ⟨.remove (.text "x"), someNoon, .null, [], false, .usual⟩,
    ⟨.toggle (.text "z") .null, someNoon, .null, [], false, .usual⟩].map .change

theorem isPlain_of_mem_someSteps : ∀ step ∈ someSteps, step.IsPlain := by
  have hnumber : numberConfig.IsObject := QuickFilter.isObject_single "nodes" (.int 5)
  have hempty : (Value.mapping []).IsObject := .ofFields List.nodup_nil (List.forall_mem_nil _)
  intro step hstep
  simp only [someSteps, List.map_cons, List.map_nil, List.mem_cons, List.not_mem_nil, or_false] at hstep
  rcases hstep with rfl | rfl | rfl | rfl | rfl | rfl | rfl
  · exact ⟨⟨⟨"x", rfl⟩, hnumber⟩, isValid_someNoon, Runtime.readsTimes_usual⟩
  · exact ⟨⟨⟨"x", rfl⟩, hempty⟩, isValid_someNoon, Runtime.readsTimes_usual⟩
  · exact ⟨⟨"x", rfl⟩, isValid_someNoon, Runtime.readsTimes_usual⟩
  · exact ⟨⟨⟨"y", rfl⟩, hempty⟩, isValid_someNoon, Runtime.readsTimes_usual⟩
  · exact ⟨⟨⟨"z", rfl⟩, hnumber⟩, isValid_someNoon, Runtime.readsTimes_usual⟩
  · exact ⟨⟨"x", rfl⟩, isValid_someNoon, Runtime.readsTimes_usual⟩
  · exact ⟨⟨"z", rfl⟩, isValid_someNoon, Runtime.readsTimes_usual⟩

theorem isTold_of_mem_someSteps : ∀ step ∈ someSteps, step.IsTold := by
  intro step hstep
  simp only [someSteps, List.map_cons, List.map_nil, List.mem_cons, List.not_mem_nil, or_false] at hstep
  rcases hstep with rfl | rfl | rfl | rfl | rfl | rfl | rfl <;> exact not_false

/-- Five of the seven calls commit, and their actions tell that one set is left. -/
theorem history_isActionLog_someSteps :
    (∀ step ∈ someSteps, step.IsPlain) ∧ (untouchedDesk.log [] someSteps).length = 5 ∧
      (untouchedDesk.afterSteps someSteps).engine.setHistory.actions =
        newest (some 20) (untouchedDesk.log [] someSteps) ∧
      (untouchedDesk.afterSteps someSteps).engine.setHistory.actions.reverse.foldl SetView.replay [] =
        (untouchedDesk.afterSteps someSteps).engine.sets.view ∧
      (untouchedDesk.afterSteps someSteps).engine.sets.length = 1 := by
  have hlength : (untouchedDesk.log [] someSteps).length = 5 := by decide +kernel
  have hleft : (untouchedDesk.afterSteps someSteps).engine.sets.length = 1 := by decide +kernel
  obtain ⟨hhistory, htold⟩ :=
    @history_isActionLog untouchedDesk (some 20) rfl rfl someSteps isPlain_of_mem_someSteps
  refine ⟨isPlain_of_mem_someSteps, hlength, hhistory, htold isTold_of_mem_someSteps ?_, hleft⟩
  rintro _ ⟨⟩
  rw [hlength]
  decide

end Engine
end GraphQuery
