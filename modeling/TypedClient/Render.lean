import TypedClient.Model
import TypedClient.Plan
import TypedClient.Target.Syntax
import TypedClient.Text.Blank
import TypedClient.Text.Sorted

namespace TypedClient

open Target

namespace TypeExpr

mutual

/-- Library types are qualified by their module, all other names stand as they are. -/
def toTarget : TypeExpr → Expr
  | mk name kind args =>
    let head :=
      match qualifier? (mk name kind args) with
      | none => .name name
      | some module => .attr (.name module) name
    match args with
    | [] => head
    | arg :: rest => .subscript head (arg.toTarget :: toTargets rest)

def toTargets : List TypeExpr → List Expr
  | [] => []
  | t :: rest => t.toTarget :: toTargets rest

end

end TypeExpr

namespace Render

def none : Expr := .constant .none

def text (s : String) : Expr := .constant (.text s)

def qualified (module name : String) : Expr := .attr (.name module) name

/-- The parts of a path whose known placeholders are filled in; the others stay text. -/
def pathParts (known : List String) : String → List PathTemplate.Piece → List FormatPart
  | pending, [] => if pending = "" then [] else [.text pending]
  | pending, piece :: rest =>
    match piece.placeholder? with
    | .none => pathParts known (pending ++ piece.literal) rest
    | some name =>
      if name ∈ known then
        (if pending ++ piece.literal = "" then [] else [.text (pending ++ piece.literal)])
          ++ .hole name :: pathParts known "" rest
      else pathParts known (pending ++ piece.render) rest

def formattedPath : List FormatPart → Expr
  | [] => text ""
  | [.text s] => text s
  | parts => .formatted parts

def pathExpr (plan : Plan) : Expr :=
  formattedPath
    (pathParts (plan.pathParameters.map (·.name)) "" (PathTemplate.split plan.pathTemplate))

def queryVariable : Expr := .name Plan.queryVariable

def pathVariable : Expr := .name Plan.pathVariable

def emptyQuery : Stmt :=
  .annotated Plan.queryVariable (.subscript (.name "list") [.name "str"]) (.list [])

def queryGuard (parameter : PlannedParameter) : Stmt :=
  .ifThen (.isNotNone (.name parameter.name))
    [.expr (.call (.attr queryVariable "append")
      [.formatted [.text (parameter.sourceName ++ "="), .hole parameter.name]] [])]

def querySuffix : Expr :=
  .conditional queryVariable
    (.add (text "?") (.call (.attr (text "&") "join") [queryVariable] []))
    (text "")

def pathStatements (plan : Plan) : List Stmt :=
  if plan.queryParameters.isEmpty then [.assign pathVariable (pathExpr plan)]
  else
    emptyQuery :: plan.queryParameters.map queryGuard
      ++ [.assign pathVariable (.add (pathExpr plan) querySuffix)]

def sendHelper : String := "_send_request"

def sendNoContentHelper : String := "_send_request_no_content"

def dispatch (plan : Plan) : Expr :=
  let helper := if plan.returnType.isSome then sendHelper else sendNoContentHelper
  .await (.call (.attr (.name "self") helper)
    ([pathVariable, text plan.httpMethod] ++ (plan.returnType.map TypeExpr.toTarget).toList
      ++ (plan.body.map fun body => .name body.name).toList)
    [])

def dispatchStatement (plan : Plan) : Stmt :=
  if plan.returnType.isSome then .ret (dispatch plan) else .expr (dispatch plan)

def argument (parameter : PlannedParameter) : Argument :=
  ⟨parameter.name, some parameter.type.toTarget⟩

def self : Argument := ⟨"self", .none⟩

/-- A body has no default and cannot follow query parameters that have one: then both are given
by keyword. -/
def signature (plan : Plan) : Signature :=
  let positional := self :: plan.pathParameters.map argument
  let query := plan.queryParameters.map argument
  match plan.body with
  | .none => { positional := positional ++ query, defaults := query.map fun _ => none }
  | some body =>
    if query.isEmpty then { positional := positional ++ [argument body] }
    else
      { positional
        keywordOnly := query ++ [argument body]
        keywordDefaults := query.map (fun _ => some none) ++ [.none] }

def returns (plan : Plan) : Expr :=
  (plan.returnType.map fun t => t.optional.toTarget).getD none

def method (plan : Plan) : Function :=
  { isAsync := true
    name := plan.methodName
    signature := signature plan
    body := pathStatements plan ++ [dispatchStatement plan]
    returns := returns plan }

def fieldDefault (field : Field) : Expr :=
  let alias' := ("alias", text field.sourceName)
  let fieldCall := Expr.call (qualified "pydantic" "Field")
  if field.required then fieldCall [.constant .ellipsis] [alias']
  else
    match field.factory with
    | .none => fieldCall [none] [alias']
    | some factory =>
      let value : Expr :=
        match TypeExpr.moduleOf factory with
        | .none => .name factory
        | some module => qualified module factory
      fieldCall [] [("default_factory", value), alias']

def fieldStatement (field : Field) : Stmt :=
  .annotated field.name field.type.toTarget (fieldDefault field)

def modelConfig : Stmt :=
  .assign (.name "model_config")
    (.call (qualified "pydantic" "ConfigDict") [] [("populate_by_name", .constant .true)])

def modelClass (name : String) (fields : List Field) : Target.Class :=
  { name
    bases := [qualified "pydantic" "BaseModel"]
    body := .stmt modelConfig :: fields.map fun field => .stmt (fieldStatement field) }

def definition : Definition → Item
  | .model name fields => .classDef (modelClass name fields)
  | .typeAlias name type => .typeAlias name type.toTarget

def anyType : Expr := qualified "typing" "Any"

def selfAttribute (name : String) : Expr := .attr (.name "self") name

def constructor : Function :=
  { isAsync := false
    name := "__init__"
    signature :=
      { positional :=
          [self, ⟨"http_client", some (qualified "httpx" "AsyncClient")⟩,
           ⟨"base_url", some (.name "str")⟩]
        defaults := [text ""] }
    body :=
      [.assign (selfAttribute "_http_client") (.name "http_client"),
       .assign (selfAttribute "_base_url") (.name "base_url")]
    returns := none }

def buildRequest : Stmt :=
  .assign (.name "request")
    (.call (.attr (selfAttribute "_http_client") "build_request")
      [.name "method", .add (selfAttribute "_base_url") (.name "path")]
      [("json",
        .conditional (.isNone (.name "body")) none
          (.call (qualified "pydantic_core" "to_jsonable_python") [.name "body"]
            [("by_alias", .constant .true)]))])

def sendRequest : Stmt :=
  .assign (.name "response")
    (.await (.call (.attr (selfAttribute "_http_client") "send") [.name "request"] []))

def raiseForStatus : Stmt :=
  .expr (.call (.attr (.name "response") "raise_for_status") [] [])

def responseContent : Expr := .attr (.name "response") "content"

def send : Function :=
  { isAsync := true
    name := sendHelper
    signature :=
      { positional :=
          [self, ⟨"path", some (.name "str")⟩, ⟨"method", some (.name "str")⟩,
           ⟨"response_type", some anyType⟩, ⟨"body", some anyType⟩]
        defaults := [none] }
    doc := some "Send a request and decode the JSON payload as ``response_type``."
    body :=
      [buildRequest, sendRequest, raiseForStatus,
       .ifThen (.not responseContent) [.ret none],
       .ret (.call
        (.attr (.call (qualified "pydantic" "TypeAdapter") [.name "response_type"] [])
          "validate_json")
        [responseContent] [])]
    returns := anyType }

def sendNoContent : Function :=
  { isAsync := true
    name := sendNoContentHelper
    signature :=
      { positional :=
          [self, ⟨"path", some (.name "str")⟩, ⟨"method", some (.name "str")⟩,
           ⟨"body", some anyType⟩]
        defaults := [none] }
    doc := some "Send a request whose response payload is ignored."
    body := [buildRequest, sendRequest, raiseForStatus]
    returns := none }

def clientClass (className : String) (plans : List Plan) : Target.Class :=
  { name := className
    bases := []
    body :=
      .function constructor :: plans.map (fun plan => .function (method plan))
        ++ [.function send, .function sendNoContent] }

def definitionTypes : Definition → List TypeExpr
  | .model _ fields => fields.map (·.type)
  | .typeAlias _ type => [type]

def planTypes (plan : Plan) : List TypeExpr :=
  plan.parameters.map (·.type) ++ plan.returnType.toList

def factoryModules : Definition → List String
  | .model _ fields => fields.filterMap fun field => field.factory.bind TypeExpr.moduleOf
  | .typeAlias .. => []

def typeModules (definitions : List Definition) (plans : List Plan) : List String :=
  TypeExpr.qualifiersAll (definitions.flatMap definitionTypes ++ plans.flatMap planTypes)
    ++ definitions.flatMap factoryModules
    ++ if plans.any (·.returnType.isSome) then ["typing"] else []

def imports (definitions : List Definition) (plans : List Plan) : List String :=
  Text.sorted ("typing" :: typeModules definitions plans) ++ ["httpx", "pydantic", "pydantic_core"]

def moduleDoc (options : Options) (info : Info) : String :=
  let source := " ".intercalate ([info.title, info.version].filter (· ≠ ""))
  let description := (info.description.filter (· ≠ "")).map Text.strip
  "\n".intercalate
    (s!"Generated API client module {options.moduleName}."
      :: (if source = "" then [] else ["", "Source: " ++ source])
      ++ (description.map (["", ·])).getD [])

def module (definitions : List Definition) (plans : List Plan) (options : Options) (info : Info) :
    Module :=
  { doc := moduleDoc options info
    items :=
      .lateAnnotations :: (imports definitions plans).map .imported
        ++ definitions.map definition
        ++ [.classDef (clientClass options.className plans)] }

end Render

def Spec.module (spec : Spec) (options : Options) : Target.Module :=
  Render.module spec.definitions spec.plans options spec.info

end TypedClient
