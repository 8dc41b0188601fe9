import GraphQuery.Graph.Entity

/-!
# Names that entities answer to

Besides its fields and its other attributes an entity answers to names of its own: those of its
operations and of its inner workings, which equal no value, and those that describe it, which do.  The
names of its own come before other attributes of the same name.

* `Entity.answer` is the answer to a name;
* `Entity.description?` gives the names that describe an entity.
-/

namespace GraphQuery

/-- What an entity answers when it is asked for a name. -/
inductive Attribute where
  | value (v : Value)
  /-- A part of the entity's workings. -/
  | working

namespace Attribute

/-- Whether an attribute is strictly equal to a value; workings equal none. -/
def equals (a : Attribute) (v : Value) : Bool :=
  match a with
  | value w => Value.strictSame w v
  | working => false

end Attribute

namespace Entity

/-- The names of the operations of an entity. -/
def operationNames : List String :=
  ["model_construct", "model_copy", "model_dump", "model_dump_json", "model_fields",
    "model_json_schema", "model_parametrized_name", "model_post_init", "model_rebuild",
    "model_validate", "model_validate_json", "model_validate_strings",
    -- Older names of the same operations.
    "construct", "copy", "dict", "from_orm", "json", "parse_file", "parse_obj", "parse_raw",
    "schema", "schema_json", "update_forward_refs", "validate"]

/-- The names of the inner workings of an entity. -/
def workingNames : List String :=
  ["_abc_impl", "_calculate_keys", "_copy_and_set_values", "_get_value", "_iter",
    "_setattr_handler", "__annotations__", "__class__", "__class_getitem__", "__class_vars__",
    "__copy__", "__deepcopy__", "__delattr__", "__dir__", "__doc__", "__eq__", "__fields__",
    "__format__", "__ge__", "__get_pydantic_core_schema__", "__get_pydantic_json_schema__",
    "__getattr__", "__getattribute__", "__getstate__", "__gt__", "__init__", "__init_subclass__",
    "__iter__", "__le__", "__lt__", "__module__", "__ne__", "__new__", "__pretty__",
    "__pydantic_core_schema__", "__pydantic_decorators__", "__pydantic_fields__",
    "__pydantic_init_subclass__", "__pydantic_on_complete__", "__pydantic_serializer__",
    "__pydantic_validator__", "__reduce__", "__reduce_ex__", "__replace__", "__repr__",
    "__repr_args__", "__repr_name__", "__repr_recursion__", "__repr_str__", "__rich_repr__",
    "__setattr__", "__setstate__", "__sizeof__", "__slots__", "__str__", "__subclasshook__"]

/-- The names of the fields and attributes that were given. -/
def givenNames (x : Entity) : List String := x.givenFields ++ Fields.names x.extras

/-- What a name says that describes an entity; none for other names. -/
def description? (x : Entity) (name : String) : Option Value :=
  match name with
  | "model_extra" | "__pydantic_extra__" => some (.mapping x.extras)
  | "model_fields_set" | "__fields_set__" | "__pydantic_fields_set__" =>
    some (.setOf false (x.givenNames.map .text))
  | "model_config" => some (.mapping [("extra", .text "allow")])
  | "__dict__" => some (.mapping x.knownFields)
  | "__abstractmethods__" => some (.set true [])
  | "__pydantic_generic_metadata__" =>
    some (.mapping [("origin", .null), ("args", .tuple []), ("parameters", .tuple [])])
  | "model_computed_fields" | "__private_attributes__" | "__pydantic_computed_fields__"
  | "__pydantic_setattr_handlers__" => some (.mapping [])
  | "__pydantic_complete__" => some (.bool true)
  | "__pydantic_custom_init__" | "__pydantic_root_model__" => some (.bool false)
  | "__hash__" | "__weakref__" | "__pydantic_parent_namespace__" | "__pydantic_post_init__"
  | "__pydantic_private__" => some .null
  | _ => none

/-- The answer to a name; a name that nothing goes by stands for null. -/
def answer (x : Entity) (name : String) : Attribute :=
  match Fields.get? x.knownFields name <|> x.description? name with
  | some v => .value v
  | none =>
    if operationNames.contains name || workingNames.contains name then .working
    else .value (Fields.getD x.extras name)

end Entity
end GraphQuery
