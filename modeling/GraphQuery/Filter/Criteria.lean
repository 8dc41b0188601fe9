import GraphQuery.Criteria.Comparison
import GraphQuery.Graph.Adjacency

/-!
# Filter criteria

A filter criterion tests one field of a node or an edge.  A criterion that does not fit its field or its
operator is not met; fields that are not known are not tested.
-/

namespace GraphQuery
namespace Filter

/-- Whether two texts meet a text criterion's operator, contains unless another is named. -/
def textTest (operator : Value) (haystack needle : String) : Bool :=
  match operator with
  | .text "equals" => haystack == needle
  | .text "startsWith" => Text.startsWith haystack needle
  | .text "endsWith" => Text.endsWith haystack needle
  | _ => Text.contains haystack needle

/-- Whether a text meets a text criterion that gives a value and perhaps an operator. -/
def meetsTextEntries (text : String) (entries : Fields) : Outcome Bool :=
  match Fields.getD entries "value" with
  | .null => .error (.criteria .textNeedsValue)
  | value => do
    let needle ← value.toText
    let operator := (Fields.get? entries "operator").getD (.text "contains")
    let caseSensitive := (Fields.getD entries "case_sensitive").isTruthy
    match operator with
    | .text "regex" => Operator.matchesPattern (!caseSensitive) (.text needle) needle (.ok text)
    | _ =>
      if caseSensitive then .ok (textTest operator text needle)
      else .ok (textTest operator (Text.lowercase text) (Text.lowercase needle))

/-- Whether a text field meets a criterion.  A plain text must be contained, letter case ignored; a
field without text meets a criterion only if that counts as false. -/
def meetsText (text : Option String) (criterion : Value) : Outcome Bool :=
  match text.getD "" with
  | "" => .ok (!criterion.isTruthy)
  | text =>
    match criterion with
    | .text part => .ok (Text.contains (Text.lowercase text) (Text.lowercase part))
    | .mapping entries => meetsTextEntries text entries
    | _ => .ok false

/-- Whether a value that is no text contains one. -/
def holdsText (v : Value) (part : String) : Outcome Bool :=
  match v, v.collection? with
  | .mapping entries, _ => .ok (Fields.has entries part)
  | _, some items => .ok (items.any (Value.same (.text part)))
  | _, none => .error .mismatch

/-- Whether a value that is no text meets a text criterion's entries.  It has no letter case to ignore and no
start or end. -/
def meetsEntriesAsOther (v : Value) (entries : Fields) : Outcome Bool :=
  match Fields.getD entries "value" with
  | .null => .error (.criteria .textNeedsValue)
  | value => do
    let needle ← value.toText
    let caseSensitive := (Fields.getD entries "case_sensitive").isTruthy
    match (Fields.get? entries "operator").getD (.text "contains") with
    | .text "regex" => do
      let _ ← Operator.matchesPattern (!caseSensitive) (.text needle) needle (.ok "")
      throw .mismatch
    | .text "startsWith" | .text "endsWith" => .error .noSuchPart
    | operator =>
      if !caseSensitive then .error .noSuchPart
      else if operator.text? = some "equals" then .ok false
      else holdsText v needle

/-- Whether a value meets a text criterion, as `meetsText` says for texts and what counts as false. -/
def meetsAsText (v criterion : Value) : Outcome Bool :=
  if !v.isTruthy || v.text?.isSome then meetsText v.text? criterion
  else
    match criterion with
    | .text _ => .error .noSuchPart
    | .mapping entries => meetsEntriesAsOther v entries
    | _ => .ok false

/-- Whether an item passes a test. -/
def passes (x : Entity) (test : ItemTest Value) : Outcome Bool :=
  match test with
  | .constant answer => .ok answer
  | .labelled => .ok (x.label.getD "" != "")
  | .hasProperty key => .ok (Fields.has x.properties key)
  | .propertyAbove key bound =>
    Operator.ordered (Value.below? true bound ((Fields.get? x.properties key).getD (.int 0)))
  | .failing .mismatch => .error .mismatch
  | .failing .criteria => .error (.criteria .testFailed)
  | .failing .argument => .error (.argument .testFailed)

/-- Whether an item meets a custom criterion; one that is not a test is met by every item. -/
def meetsCustom (x : Entity) (criterion : Value) : Outcome Bool :=
  match criterion with
  | .test body => passes x body
  | _ => .ok true

/-- Whether a number of connections meets a criterion: a number, or an operator with its value. -/
def meetsConnections (degree : Degree) (criterion : Value) : Outcome Bool :=
  let count := Value.int degree.connections
  match criterion with
  | .int _ | .float _ => .ok (Value.same count criterion)
  | .mapping entries =>
    (Operator.resolve (Fields.getD entries "operator")).applies count (Fields.getD entries "value")
  | _ => .ok false

/-- Whether a degree meets a criterion, which must be a mapping. -/
def meetsDegree (degree : Degree) (criterion : Value) : Outcome Bool :=
  match criterion with
  | .mapping entries =>
    let kind := (Fields.get? entries "type").getD (.text "total")
    let operator := (Fields.get? entries "operator").getD (.text "eq")
    (Operator.resolve operator).applies (.int (degree.ofKind kind)) (Fields.getD entries "value")
  | _ => .error (.showing criterion (.criteria (.degreeNeedsMapping criterion)))

/-- Whether a field that nodes and edges share meets a criterion; `none` for other fields. -/
def sharedField? (x : Entity) (name : String) (criterion : Value) : Option (Outcome Bool) :=
  match name with
  | "type" => some ((textOrNull x.type).meets criterion)
  | "label" => some (meetsText x.label criterion)
  | "text" => some do meetsText (some (Text.lowercase (← x.searchableText))) criterion
  | "id" => some (x.id.toValue.meets criterion)
  | "properties" => some (Fields.meet x.properties criterion)
  | "custom" => some (meetsCustom x criterion)
  | _ => none

/-- Whether a field of a node with the given degree meets a criterion. -/
def nodeField (degree : Degree) (n : Node) (name : String) (criterion : Value) : Outcome Bool :=
  match sharedField? (.node n) name criterion with
  | some answer => answer
  | none =>
    match name with
    | "connections" => meetsConnections degree criterion
    | "degree" => meetsDegree degree criterion
    | _ => .ok true

/-- Whether a field of an edge meets a criterion. -/
def edgeField (e : Edge) (name : String) (criterion : Value) : Outcome Bool :=
  match sharedField? (.edge e) name criterion with
  | some answer => answer
  | none =>
    match name with
    | "source" => e.source.toValue.meets criterion
    | "target" => e.target.toValue.meets criterion
    | _ => .ok true

/-- Whether every criterion is met, in order; a criterion that cannot be evaluated is not met. -/
def meetsEach (field : String → Value → Outcome Bool) : List (String × Value) → Outcome Bool
  | [] => .ok true
  | (name, criterion) :: rest =>
    match (field name criterion).closed with
    | .ok true => meetsEach field rest
    | answer => answer

/-- The items that pass a check, in order. -/
def keep {α : Type} (check : α → Outcome Bool) : List α → Outcome (List α)
  | [] => .ok []
  | x :: xs => do
    let kept ← check x
    let rest ← keep check xs
    return if kept then x :: rest else rest

/-- The check that criteria stand for; criteria that are no mapping fail on every item. -/
def criteriaCheck {α : Type} (field : α → String → Value → Outcome Bool) (criteria : Value) (x : α) :
    Outcome Bool :=
  -- A key that is no text names no field, and what is not a field is not tested.
  match criteria.mapping? with
  | some entries => meetsEach (field x) entries
  | none => .error .noSuchPart

/-- The nodes that meet criteria, degrees being looked up in a table. -/
def keepNodes (degrees : DegreeTable) (criteria : Value) (nodes : List Node) : Outcome (List Node) :=
  keep (criteriaCheck (fun n => nodeField (degrees.lookup n.id) n) criteria) nodes

/-- The edges that meet criteria. -/
def keepEdges (criteria : Value) (edges : List Edge) : Outcome (List Edge) :=
  keep (criteriaCheck edgeField criteria) edges

end Filter
end GraphQuery
