import GraphQuery.Time.Check

/-!
# The history of filter sets

Every change of the filter sets is recorded as an action, newest first.  A history of bounded length
drops its oldest actions.
-/

namespace GraphQuery

inductive ActionKind where
  | created
  | updated
  | removed
  | activated
  | deactivated
  | imported
  | cleared
deriving DecidableEq, Repr

namespace ActionKind

def all : List ActionKind :=
  [created, updated, removed, activated, deactivated, imported, cleared]

def name : ActionKind → String
  | created => "create"
  | updated => "update"
  | removed => "remove"
  | activated => "activate"
  | deactivated => "deactivate"
  | imported => "import"
  | cleared => "clear_all"

def ofName? (s : String) : Option ActionKind := all.find? (·.name = s)

end ActionKind

structure FilterAction where
  kind : ActionKind
  name : Option String
  config : Option Fields
  count : Option Int
  timestamp : Timestamp

namespace Check

open Checked

/-- An integer: a number without a fraction, a truth value, or the text of an integer. -/
def integer (v : Value) : Checked Int :=
  match v with
  | .int n => .ok n
  | .bool b => .ok (if b then 1 else 0)
  | .float x => wholeNumber x
  | .text s =>
    match Number.looseInteger s with
    | .ok n => .ok n
    | .error .malformed => broken .integerText
    | .error .tooLong => broken .integerSize
  | _ => broken .integer

/-- Nothing, or what the check gives. -/
def optional {α : Type} (check : Value → Checked α) (v : Value) : Checked (Option α) :=
  match v with
  | .null => .ok none
  | v => (check v).map some

def actionKind (v : Value) : Checked ActionKind :=
  match v.text?.bind ActionKind.ofName? with
  | some kind => .ok kind
  | none => broken .listed

/-- An action from its fields; one without a time happens now. -/
def filterAction (now : Timestamp) (fields : Fields) : Checked FilterAction :=
  let kind := field fields "action" actionKind none
  let name := field fields "name" optionalText (some none)
  let config := field fields "config" (optional mapping) (some none)
  let count := field fields "count" (optional integer) (some none)
  let timestamp := field fields "timestamp" time (some now)
  match kind, name, config, count, timestamp with
  | .ok kind, .ok name, .ok config, .ok count, .ok timestamp =>
    .ok ⟨kind, name, config, count, timestamp⟩
  | _, _, _, _, _ =>
    .error (kind.faults ++ name.faults ++ config.faults ++ count.faults ++ timestamp.faults)

end Check

structure FilterHistory where
  /-- The greatest number of actions; none for a history without a bound. -/
  capacity : Option Nat
  /-- The actions, newest first. -/
  actions : List FilterAction

namespace FilterHistory

def withCapacity (capacity : Nat) : FilterHistory := ⟨some capacity, []⟩

/-- Sizes lie below this one. -/
def capacityLimit : Nat := Nat.pow 2 63

/-- An empty history of the given size. -/
def ofSize (size : Int) : Outcome FilterHistory :=
  if size < -(capacityLimit : Int) ∨ (capacityLimit : Int) ≤ size then .error .overflow
  else if size < 0 then .error (.argument .historySize)
  else .ok (withCapacity size.toNat)

/-- An empty history of the size that a value gives; null stands for no bound. -/
def new (capacity : Value) : Outcome FilterHistory :=
  match capacity with
  | .null => .ok ⟨none, []⟩
  | .int n => ofSize n
  | .bool b => ofSize (if b then 1 else 0)
  | _ => .error .mismatch

def push (history : FilterHistory) (action : FilterAction) : FilterHistory :=
  let actions := action :: history.actions
  { history with
    actions := match history.capacity with
      | some n => actions.take n
      | none => actions }

/-- The name by which a history itself goes among the fields it is given; no field can have it. -/
def ownName : String := "self"

/-- Records an action given by its fields. -/
def record (history : FilterHistory) (now : Timestamp) (fields : Fields) : Outcome FilterHistory :=
  if Fields.has fields ownName then .error .mismatch
  else ((Check.filterAction now fields).toOutcome).map history.push

def clear (history : FilterHistory) : FilterHistory := { history with actions := [] }

end FilterHistory
end GraphQuery
