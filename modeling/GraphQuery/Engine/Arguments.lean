import GraphQuery.Engine.Session

/-!
# Named arguments

A call names its arguments.  A signature lists the names that an operation takes, with defaults for
those that may be left out; a name that is not listed, or one that is missing, does not fit.
-/

namespace GraphQuery

/-- The parameters of an operation in order; one without a default must be given. -/
abbrev Signature := List (String × Option Value)

namespace Signature

/-- The argument for every parameter. -/
def bind (sig : Signature) (given : Fields) : Outcome Fields :=
  if given.any fun entry => !sig.any (·.1 == entry.1) then .error .mismatch
  else
    sig.mapM fun (name, default) =>
      match Fields.get? given name, default with
      | some v, _ => .ok (name, v)
      | none, some v => .ok (name, v)
      | none, none => .error .mismatch

end Signature

/-- The name that an argument gives to an entry. -/
def EntryName.ofArgument (v : Value) : Outcome EntryName :=
  match EntryName.ofValue? v with
  | some name => .ok name
  | none => .error .mismatch

/-- A query that an argument gives: what counts as false is empty. -/
def queryOfArgument (v : Value) : Outcome String :=
  if v.isTruthy then
    match v with
    | .text s => .ok s
    | _ => .error .noSuchPart
  else .ok ""

/-- A count that an argument gives. -/
def countOfArgument (v : Value) : Outcome Int :=
  match v with
  | .int n => .ok n
  | .bool b => .ok (if b then 1 else 0)
  | _ => .error .mismatch

end GraphQuery
