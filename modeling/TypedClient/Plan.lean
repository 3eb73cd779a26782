import TypedClient.Naming
import TypedClient.PathTemplate
import TypedClient.TypeExpr

namespace TypedClient

inductive Role
  | path
  | query
  | body
  deriving DecidableEq

structure PlannedParameter where
  name : String
  sourceName : String
  role : Role
  type : TypeExpr

structure Plan where
  methodName : String
  httpMethod : String
  pathTemplate : String
  pathParameters : List PlannedParameter
  queryParameters : List PlannedParameter
  body : Option PlannedParameter
  returnType : Option TypeExpr

namespace Plan

def parameters (plan : Plan) : List PlannedParameter :=
  plan.pathParameters ++ plan.queryParameters ++ plan.body.toList

def pathVariable : String := "_path"

def queryVariable : String := "_query"

def bodyName : String := "body"

def parameterName (sourceName : String) : String :=
  identifier ["self", bodyName] (Text.lowerLead sourceName)

def reservedNames (returnType : Option TypeExpr) : List String :=
  ["self", pathVariable, queryVariable] ++ (returnType.map TypeExpr.lookups).getD []

def role : Location → Role
  | .path => .path
  | .query => .query

def plannedType (parameter : Parameter) : TypeExpr :=
  match parameter.location with
  | .path => .ofSchema parameter.schema
  | .query => (TypeExpr.ofSchema parameter.schema).optional

/-- Each parameter gets the first free form of its name, which is then taken. -/
def nameParameters (taken : List String) : List Parameter → List PlannedParameter
  | [] => []
  | p :: rest =>
    let name := firstFree taken (parameterName p.name)
    ⟨name, p.name, role p.location, plannedType p⟩ :: nameParameters (name :: taken) rest

def renamed (parameters : List PlannedParameter) (placeholder : String) : String :=
  ((parameters.reverse.find? (·.sourceName = placeholder)).map (·.name)).getD placeholder

/-- The body's name is claimed first, even where there is no body. -/
def ofEndpoint (endpoint : Endpoint) : Plan :=
  let returnType := Content.responseType? endpoint.responses
  let reserved := reservedNames returnType
  let body := firstFree reserved bodyName
  let named := nameParameters (body :: reserved) endpoint.parameters
  let pathParameters := named.filter (·.role = .path)
  { methodName :=
      identifier [] (TypedClient.methodName endpoint.method endpoint.path endpoint.operationId)
    httpMethod := Text.upper endpoint.method
    pathTemplate := PathTemplate.rename (renamed pathParameters) endpoint.path
    pathParameters
    queryParameters := named.filter (·.role = .query)
    body :=
      if (endpoint.requestBody.getD []).isEmpty then none
      else some ⟨body, bodyName, .body, Content.bodyType endpoint.requestBody⟩
    returnType }

end Plan

def Spec.plans (spec : Spec) : List Plan := spec.endpoints.map Plan.ofEndpoint

end TypedClient
