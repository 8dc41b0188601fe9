import GraphQuery.Failure
import GraphQuery.Pattern.Reader
import GraphQuery.Text.Subsequence
import GraphQuery.Value.Text

/-!
# Comparing values

`Operator.evaluate` compares an item with the value of a criterion and fails where the two do not fit
the operator.  `Operator.applies` fails closed: what does not fit does not match.  Other failures stay: a
pattern that cannot be searched for, and a value that has no text where one is needed.
-/

namespace GraphQuery

namespace Operator

/-- The operator of a criterion; anything but a known name or symbol stands for equality. -/
def resolve (name : Value) : Operator :=
  match name with
  | .text s => (ofName? s).getD eq
  | _ => eq

/-- A comparison by order. -/
def ordered (answer : Option Bool) : Outcome Bool :=
  match answer with
  | some b => .ok b
  | none => .error .mismatch

/-- Membership in the list that an operator needs. -/
def isMember (op : Operator) (item value : Value) : Outcome Bool :=
  match value.collection? with
  | some items => .ok (Value.strictMember items item)
  | none => .error (.criteria (.needsList op value))

/-- Whether the item lies in a closed range; the upper bound is looked at only if the lower one
holds. -/
def isBetween (item value : Value) : Outcome Bool :=
  match value with
  | .list [low, high] | .tuple [low, high] =>
    match Value.below? false low item with
    | none => .error .mismatch
    | some false => .ok false
    | some true => ordered (Value.below? false item high)
  | _ => .error (.showing value (.criteria (.needsPair value)))

/-- A test on the lowercase texts of both sides; what is missing matches nothing. -/
def onTexts (test : String → String → Bool) (item value : Value) : Outcome Bool :=
  match item with
  | .null => .ok false
  | _ => do
    let held ← item.toText
    let asked ← value.toText
    return test (Text.lowercase held) (Text.lowercase asked)

/-- The failure of a search for a pattern; `shown` is the pattern as messages give it. -/
def patternFailure (shown : Value) : PatternFault → Failure
  | .malformed => .criteria (.badPattern shown)
  | .countTooLarge => .overflow
  | .countTooLong digits => .argument (.longInteger digits)
  | .nestedTooDeep => .nestedTooDeep
  | .behindTooWide => .patternTooWide
  | .tangledGroups => .tangledMatch
  | .clashingFlags => .argument .clashingFlags

/-- Whether a pattern occurs in a text, which is written once the pattern has been read; `shown` is the pattern
as messages give it. -/
def matchesPattern (ignoreCase : Bool) (shown : Value) (pattern : String) (subject : Outcome String) :
    Outcome Bool := do
  let read ← (Pattern.read ignoreCase pattern).mapError (patternFailure shown)
  let subject ← subject
  (Pattern.occursIn read subject).mapError (patternFailure shown)

/-- Compares an item with the value of a criterion. -/
def evaluate (op : Operator) (item value : Value) : Outcome Bool :=
  match op with
  | eq => .ok (Value.strictSame item value)
  | ne => .ok (!Value.strictSame item value)
  | gt => ordered (Value.below? true value item)
  | gte => ordered (Value.below? false value item)
  | lt => ordered (Value.below? true item value)
  | lte => ordered (Value.below? false item value)
  | oneOf => isMember op item value
  | noneOf => (isMember op item value).map (!·)
  | between => isBetween item value
  | contains => onTexts Text.contains item value
  | startsWith => onTexts Text.startsWith item value
  | endsWith => onTexts Text.endsWith item value
  | regex =>
    match item with
    | .null => .ok false
    | _ => do
      let pattern ← value.toText
      matchesPattern true value pattern item.toText

end Operator

/-- An answer in which what fails as a criterion can is not met. -/
def Outcome.closed (answer : Outcome Bool) : Outcome Bool :=
  match answer with
  | .ok b => .ok b
  | .error e => if e.countsAsUnmet then .ok false else .error e

namespace Operator

/-- Compares an item with the value of a criterion; what does not fit the operator does not match. -/
def applies (op : Operator) (item value : Value) : Outcome Bool := (op.evaluate item value).closed

end Operator

namespace Value

/-- The operator and the value of a criterion that names an operator. -/
def operatorFilter? (criterion : Value) : Option (Operator × Value) :=
  match criterion.mapping? with
  | some entries =>
    let name := Fields.getD entries "operator"
    if name.isTruthy then some (Operator.resolve name, Fields.getD entries "value") else none
  | none => none

/-- Whether a value meets a criterion that is a literal or names an operator. -/
def meetsLiteral (actual criterion : Value) : Outcome Bool :=
  match criterion.operatorFilter? with
  | some (op, value) => op.applies actual value
  | none => .ok (strictSame actual criterion)

/-- Whether a value meets a criterion: one of a list, or as `meetsLiteral` says. -/
def meets (actual criterion : Value) : Outcome Bool :=
  match criterion.collection? with
  | some items => .ok (strictMember items actual)
  | none => meetsLiteral actual criterion

end Value

namespace Fields

/-- Whether every listed property is present and meets its criterion, in order. -/
def meetAll (properties : Fields) : List (String × Value) → Outcome Bool
  | [] => .ok true
  | (key, expected) :: rest =>
    match get? properties key with
    | none => .ok false
    | some actual =>
      match actual.meetsLiteral expected with
      | .ok true => meetAll properties rest
      | answer => answer

/-- Whether every row's key is the name of a property that meets the row's criterion, in order; a key that
is no text names none. -/
def meetRows (properties : Fields) : List (Value × Value) → Outcome Bool
  | [] => .ok true
  | (key, expected) :: rest =>
    match key.text?.bind (get? properties) with
    | none => .ok false
    | some actual =>
      match actual.meetsLiteral expected with
      | .ok true => meetRows properties rest
      | answer => answer

/-- Whether properties meet criteria, which must be a mapping. -/
def meet (properties : Fields) (criteria : Value) : Outcome Bool :=
  match criteria with
  | .mapping entries => meetAll properties entries
  | .table rows => meetRows properties rows
  | _ => .ok false

end Fields

namespace Value

/-- Whether a value that holds names, but not their values, meets criteria: it does not if it lacks the first
name, and none can be looked up in it otherwise. -/
def lacksFirst (hasName : String → Bool) (criteria : Fields) : Outcome Bool :=
  match criteria with
  | [] => .ok true
  | (key, _) :: _ => if hasName key then .error .mismatch else .ok false

/-- Whether the properties that a value stands for meet criteria; what counts as false stands for none. -/
def meetsProperties (properties criteria : Value) : Outcome Bool :=
  match criteria.mapping? with
  | none => .ok false
  | some entries =>
    if !properties.isTruthy then Fields.meet [] criteria
    else
      match properties with
      | .mapping known => Fields.meet known criteria
      | .text s => lacksFirst (Text.contains s) entries
      | _ =>
        match properties.collection? with
        | some items => lacksFirst (fun key => items.any (same (.text key))) entries
        | none => lacksFirst (fun _ => true) entries

end Value
end GraphQuery
