import GraphQuery.Json.Writer
import GraphQuery.Value.Display
import GraphQuery.Value.LookupKey

/-!
# Names of entries

Filter sets and saved searches are known by names.  A name is a text as a rule; other values that can be
looked up can be names too and are told apart from their texts, until they have been stored.
-/

namespace GraphQuery

/-- What an entry is known by: a value that can be looked up. -/
structure EntryName where
  value : Value
  isLookupKey : value.isLookupKey = true

namespace EntryName

/-- Equal values are one name. -/
instance : BEq EntryName := ⟨fun a b => a.value == b.value⟩

def text (s : String) : EntryName := ⟨.text s, by simp [Value.isLookupKey]⟩

/-- The name that a value is; values that cannot be looked up are none. -/
def ofValue? (v : Value) : Option EntryName :=
  if h : v.isLookupKey = true then some ⟨v, h⟩ else none

/-- The name as a key of a JSON object; none for names that JSON has no form for. -/
def jsonKey? (name : EntryName) : Option String := Json.keyName? name.value

/-- The name as a label of an entry. -/
def label (name : EntryName) : String := name.jsonKey?.getD name.value.display

end EntryName
end GraphQuery
