import TypedClient.Plan
import TypedClient.Text.Sorted

namespace TypedClient

inductive Warning
  | sameMethod (names : List String)
  | shadowing (names : List String)
  | missingSchemas (names : List String)
  deriving DecidableEq

namespace Warning

def message : Warning → String
  | .sameMethod names =>
    "Several endpoints map to the same method name: " ++ ", ".intercalate names
  | .shadowing names =>
    "Schema names shadow names the generated module relies on: " ++ ", ".intercalate names
  | .missingSchemas names =>
    "References to schemas missing from components: " ++ ", ".intercalate names

def moduleNames : List String :=
  ["datetime", "decimal", "uuid", "typing", "httpx", "pydantic", "pydantic_core"]

def builtinTypes : List String := ["bool", "float", "int", "list", "str"]

def repeated (names : List String) : List String :=
  Text.sorted (names.filter fun name => 1 < names.count name)

end Warning

namespace Endpoint

def schemas (endpoint : Endpoint) : List Schema :=
  endpoint.parameters.map (·.schema) ++ (endpoint.requestBody.getD []).map (·.2)
    ++ endpoint.responses.flatMap fun (_, content) => content.map (·.2)

end Endpoint

namespace Spec

def referencedNames (spec : Spec) : List String :=
  (spec.definedSchemas.map (·.2) ++ spec.endpoints.flatMap Endpoint.schemas).flatMap
    Schema.references

def schemaNames (spec : Spec) : List String := spec.schemas.map (·.1)

def reservedNames (options : Options) : List String :=
  Warning.moduleNames ++ Warning.builtinTypes ++ [options.className]

def warnings (spec : Spec) (options : Options) : List Warning :=
  let same := Warning.repeated (spec.plans.map (·.methodName))
  let shadowing := Text.sorted (spec.schemaNames.filter (· ∈ reservedNames options))
  let missing := Text.sorted (spec.referencedNames.filter (· ∉ spec.schemaNames))
  (if same.isEmpty then [] else [.sameMethod same])
    ++ (if shadowing.isEmpty then [] else [.shadowing shadowing])
    ++ (if missing.isEmpty then [] else [.missingSchemas missing])

end Spec

end TypedClient
