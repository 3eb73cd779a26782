import TypedClient.Spec

/-!
Type expressions of the generated module. A reference resolves to its name and is never expanded,
so recursive schemas have finite types.
-/

namespace TypedClient

inductive Kind
  | untyped
  | reference
  | array
  | object
  | string
  | integer
  | number
  | boolean
  deriving DecidableEq

/-- A type such as `list[Tag]`. -/
inductive TypeExpr
  | mk (name : String) (kind : Kind) (args : List TypeExpr)
namespace TypeExpr

def name : TypeExpr → String
  | mk name _ _ => name

def kind : TypeExpr → Kind
  | mk _ kind _ => kind

def args : TypeExpr → List TypeExpr
  | mk _ _ args => args

def any : TypeExpr := mk "Any" .untyped []

instance : Inhabited TypeExpr := ⟨any⟩

mutual

def render : TypeExpr → String
  | mk name _ [] => name
  | mk name _ (arg :: args) => name ++ "[" ++ ", ".intercalate (renderAll (arg :: args)) ++ "]"

def renderAll : List TypeExpr → List String
  | [] => []
  | t :: rest => t.render :: renderAll rest

end

mutual

def names : TypeExpr → List String
  | mk name _ args => name :: namesAll args

def namesAll : List TypeExpr → List String
  | [] => []
  | t :: rest => t.names ++ namesAll rest

end

def moduleOf : String → Option String
  | "Any" => some "typing"
  | "Optional" => some "typing"
  | "datetime" => some "datetime"
  | "date" => some "datetime"
  | "time" => some "datetime"
  | "Decimal" => some "decimal"
  | "UUID" => some "uuid"
  | _ => none

/-- The module that qualifies the head of a type. A bare reference is the name of a schema, even
when a library type is called the same. -/
def qualifier? : TypeExpr → Option String
  | mk name kind args => if kind = .reference ∧ args.isEmpty then none else moduleOf name

def headLookup (t : TypeExpr) : String := t.qualifier?.getD t.name

mutual

def lookups : TypeExpr → List String
  | mk name kind args => headLookup (mk name kind args) :: lookupsAll args

def lookupsAll : List TypeExpr → List String
  | [] => []
  | t :: rest => t.lookups ++ lookupsAll rest

end

mutual

def qualifiers : TypeExpr → List String
  | mk name kind args => (qualifier? (mk name kind args)).toList ++ qualifiersAll args

def qualifiersAll : List TypeExpr → List String
  | [] => []
  | t :: rest => t.qualifiers ++ qualifiersAll rest

end

def stringType : String → String
  | "date-time" => "datetime"
  | "date" => "date"
  | "time" => "time"
  | "uuid" => "UUID"
  | _ => "str"

def numberType : String → String
  | "float" => "float"
  | "double" => "float"
  | _ => "Decimal"

def ofPrimitive (kind : String) (format : Option String) : TypeExpr :=
  let format := format.getD ""
  match kind with
  | "string" => mk (stringType format) .string []
  | "integer" => mk "int" .integer []
  | "number" => mk (numberType format) .number []
  | "boolean" => mk "bool" .boolean []
  | _ => any

def ofSchema : Schema → TypeExpr
  | .primitive kind format => ofPrimitive kind format
  | .reference name => mk name .reference []
  | .array item => mk "list" .array [ofSchema item]
  | .object _ _ => mk "Any" .object []
  | .untyped => any

def optional (t : TypeExpr) : TypeExpr := mk "Optional" t.kind [t]

/-- Whether a slot of this type that is not required may be null. Numbers and truth values
may not. -/
def isNullable (t : TypeExpr) (required : Bool) : Bool :=
  !required && t.kind ∈ [.string, .array, .object, .reference]

end TypeExpr

namespace Content

def jsonSchema? (content : Content) : Option Schema :=
  (content.find? fun (contentType, _) => Text.contains contentType "json").map (·.2)

def type? (content : Content) : Option TypeExpr := (jsonSchema? content).map TypeExpr.ofSchema

def bodyType (content : Option Content) : TypeExpr := (type? (content.getD [])).getD .any

def success? (responses : List (String × Content)) : Option Content :=
  (responses.find? fun (status, _) => status.toList.head? = some '2').map (·.2)

def responseType? (responses : List (String × Content)) : Option TypeExpr :=
  (success? responses).bind type?

end Content

end TypedClient
