import GraphQuery.Json.Reader
import GraphQuery.Json.Writer
import GraphQuery.Store.KeyValue

/-!
# Store files as texts

A store file is written as a JSON object of its version and its entries.
-/

namespace GraphQuery
namespace StoreFile

/-- The text of a store file. -/
def text (file : StoreFile) : String :=
  let entries := file.content.map fun entry => (entry.1, Value.text entry.2)
  let version := match file.version with
    | some v => Value.text v
    | none => .null
  (Json.write? .stored (.mapping [("store_version", version), ("entries", .mapping entries)])).getD ""

/-- The store file that a text describes; none for a text that is no store. -/
def ofText? (s : String) : Option StoreFile :=
  match Json.parse s with
  | .ok (.mapping [("store_version", version), ("entries", .mapping entries)]) =>
    some ⟨version.text?, entries.filterMap fun entry => entry.2.text?.map fun v => (entry.1, v)⟩
  | _ => none

end StoreFile
end GraphQuery
