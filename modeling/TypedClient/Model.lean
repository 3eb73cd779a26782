import TypedClient.Naming
import TypedClient.TypeExpr

namespace TypedClient

structure Field where
  name : String
  sourceName : String
  type : TypeExpr
  required : Bool
  /-- The type whose empty call gives the value of a field that is left out. -/
  factory : Option String

inductive Definition
  | model (name : String) (fields : List Field)
  | typeAlias (name : String) (type : TypeExpr)

namespace Definition

def name : Definition → String
  | model name _ => name
  | typeAlias name _ => name

def baseAttributes : List String :=
  ["__abstractmethods__", "__annotations__", "__class__", "__class_getitem__", "__copy__",
   "__deepcopy__", "__delattr__", "__dict__", "__dir__", "__doc__", "__eq__", "__fields_set__",
   "__format__", "__ge__", "__get_pydantic_core_schema__", "__get_pydantic_json_schema__",
   "__getattr__", "__getattribute__", "__getstate__", "__gt__", "__hash__", "__init__",
   "__init_subclass__", "__iter__", "__le__", "__lt__", "__module__", "__ne__", "__new__",
   "__pretty__", "__pydantic_complete__", "__pydantic_core_schema__", "__pydantic_decorators__",
   "__pydantic_extra__", "__pydantic_fields_set__", "__pydantic_init_subclass__",
   "__pydantic_on_complete__", "__pydantic_parent_namespace__", "__pydantic_private__",
   "__pydantic_root_model__", "__pydantic_serializer__", "__pydantic_validator__", "__reduce__",
   "__reduce_ex__", "__replace__", "__repr__", "__repr_args__", "__repr_name__",
   "__repr_recursion__", "__repr_str__", "__rich_repr__", "__setattr__", "__setstate__",
   "__sizeof__", "__slots__", "__str__", "__subclasshook__", "_abc_impl", "_calculate_keys",
   "_copy_and_set_values", "_get_value", "_iter", "_setattr_handler", "construct", "copy", "dict",
   "from_orm", "json", "model_computed_fields", "model_config", "model_construct", "model_copy",
   "model_dump", "model_dump_json", "model_extra", "model_fields", "model_fields_set",
   "model_json_schema", "model_parametrized_name", "model_post_init", "model_rebuild",
   "model_validate", "model_validate_json", "model_validate_strings", "parse_file", "parse_obj",
   "parse_raw", "schema", "schema_json", "update_forward_refs", "validate"]

/-- Names that a field would shadow while the types of its class are evaluated, and those that
the base class refuses. -/
def reservedNames (types : List TypeExpr) : List String :=
  baseAttributes ++ "Config" :: TypeExpr.lookupsAll types ++ ["pydantic", "typing"]

/-- A field that is not required is null if its type allows that, else the type's own zero where
it has one. -/
def field (name sourceName : String) (type : TypeExpr) (required : Bool) : Field :=
  if type.isNullable required then ⟨name, sourceName, type.optional, required, none⟩
  else if !required && type.kind ∈ [.integer, .number, .boolean] then
    ⟨name, sourceName, type, required, some type.name⟩
  else ⟨name, sourceName, type, required, none⟩

def nameFields (required taken : List String) : List (String × TypeExpr) → List Field
  | [] => []
  | (source, type) :: rest =>
    let name := firstFree taken (identifier [] (Text.upperLead source))
    field name source type (source ∈ required) :: nameFields required (name :: taken) rest

def ofSchema (name : String) : Schema → Definition
  | .object properties required =>
    let typed := properties.map fun (source, schema) => (source, TypeExpr.ofSchema schema)
    model name (nameFields required (reservedNames (typed.map (·.2))) typed)
  | schema => typeAlias name (.ofSchema schema)

end Definition

def Spec.definitions (spec : Spec) : List Definition :=
  spec.definedSchemas.map fun (name, schema) => .ofSchema name schema

end TypedClient
