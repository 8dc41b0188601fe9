import GraphQuery.Criteria.Comparison
import GraphQuery.Graph.Attribute

/-!
# Criteria search

Criteria that single out nodes or edges: a loose match of the searchable text, types and ids, property
criteria, and equality of whatever else an entity answers to.
-/

namespace GraphQuery
namespace Entity

/-- Whether an entity meets the criterion of a key. -/
def meetsCriterion (x : Entity) (key : String) (value : Value) : Outcome Bool :=
  let listed (actual : Value) : Bool :=
    match value.collection? with
    | some items => Value.strictMember items actual
    | none => Value.strictSame actual value
  match key with
  | "text" => do
    let text ← x.searchableText
    let asked ← value.toText
    return Text.isScattered (Text.lowercase text) (Text.lowercase asked)
  | "type" => .ok (listed (textOrNull x.type))
  | "id" => .ok (listed x.id.toValue)
  | "properties" => Fields.meet x.properties value
  | _ => .ok ((x.answer key).equals value)

/-- Whether an entity meets all criteria, which must be a mapping. -/
def meetsCriteria (x : Entity) (criteria : Value) : Outcome Bool :=
  match criteria with
  | .mapping entries => go entries
  | _ => .error .noSuchPart
where
  /-- Criteria are looked at in order, up to the first that is not met. -/
  go : List (String × Value) → Outcome Bool
    | [] => .ok true
    | (key, value) :: rest =>
      match x.meetsCriterion key value with
      | .ok true => go rest
      | answer => answer

end Entity
end GraphQuery
