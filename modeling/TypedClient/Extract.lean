import TypedClient.Document.Reference
import TypedClient.Document.Written
import TypedClient.Spec
import TypedClient.Text.Case

/-!
What a client needs of a document. Parameters, request bodies, responses and path items given by
pointer are followed; schemas given by pointer are not.
-/

namespace TypedClient

inductive ExtractError
  | missingPaths
  | reference (error : ReferenceError)
  | listLocation
  | mapLocation
  | longInteger
  deriving DecidableEq

def ExtractError.message : ExtractError → String
  | .missingPaths => "OpenAPI document missing 'paths' object"
  | .reference error => error.message
  | .listLocation => "unhashable type: 'list'"
  | .mapLocation => "unhashable type: 'dict'"
  | .longInteger =>
    "Exceeds the limit (4300 digits) for integer string conversion; "
      ++ "use sys.set_int_max_str_digits() to increase the limit"

namespace Extract

abbrev Entries := List Entry

def verbs : List String :=
  ["get", "put", "post", "delete", "patch", "head", "options", "trace"]

def follow (document : Linked) (entries : Entries) : Except ExtractError Entries :=
  (document.follow entries).mapError .reference

def text? (key : String) (entries : Entries) : Option String :=
  (Value.lookup key entries).bind Value.text?

def items (v : Option Value) : List Value := (v.bind Value.items?).getD []

def collect (document : Linked) (v : Option Value) : Except ExtractError (List Entries) :=
  ((items v).filterMap Value.entries?).mapM (follow document)

def location : Option Value → Except ExtractError (Option Location)
  | some (.scalar (.text "path")) => .ok (some .path)
  | some (.scalar (.text "query")) => .ok (some .query)
  | some v =>
    if v.isList then .error .listLocation
    else if v.isMap then .error .mapLocation
    else .ok none
  | none => .ok none

def schemaAt (key : String) (entries : Entries) : Schema :=
  ((Value.lookup key entries).map Schema.ofValue).getD .untyped

def parameter? (entries : Entries) : Except ExtractError (Option Parameter) :=
  match (text? "name" entries).filter (· ≠ "") with
  | none => .ok none
  | some name => do
    let place ← location (Value.lookup "in" entries)
    return place.map fun place =>
      { name
        location := place
        schema := schemaAt "schema" entries
        required := place = .path
          || ((Value.lookup "required" entries).map Value.isTruthy).getD false }

/-- A parameter of the same name and location is replaced where it stands. -/
def override (parameter : Parameter) : List Parameter → List Parameter
  | [] => [parameter]
  | p :: rest =>
    if p.name = parameter.name ∧ p.location = parameter.location then parameter :: rest
    else p :: override parameter rest

def mergeParameters (raw : List Entries) : Except ExtractError (List Parameter) := do
  return (← raw.mapM parameter?).reduceOption.foldl (fun merged p => override p merged) []

def content? (v : Option Value) : Option Content :=
  (v.bind Value.entries?).map fun entries => entries.filterMap fun
    | (.text contentType, media) =>
      some (contentType, ((media.get? "schema").map Schema.ofValue).getD .untyped)
    | _ => none

def requestBody (document : Linked) (v : Option Value) : Except ExtractError (Option Content) :=
  match v.bind Value.entries? with
  | some entries => do return content? (Value.lookup "content" (← follow document entries))
  | none => .ok none

def setResponse (status : String) (content : Content) :
    List (String × Content) → List (String × Content)
  | [] => [(status, content)]
  | (s, c) :: rest =>
    if s = status then (s, content) :: rest else (s, c) :: setResponse status content rest

def responses (document : Linked) (v : Option Value) :
    Except ExtractError (List (String × Content)) := do
  let given := ((v.bind Value.entries?).getD []).filterMap fun (status, response) =>
    response.entries?.map (status, ·)
  let followed ← given.mapM fun (status, response) => do
    let content := content? (Value.lookup "content" (← follow document response))
    if !status.isWritable then throw .longInteger
    return (status.plain, content.getD [])
  return followed.foldl (fun found (status, content) => setResponse status content found) []

def tags (v : Option Value) : List String := (items v).filterMap Value.text?

def endpoint (document : Linked) (path verb : String) (item operation : Entries) :
    Except ExtractError Endpoint := do
  let shared ← collect document (Value.lookup "parameters" item)
  let own ← collect document (Value.lookup "parameters" operation)
  let parameters ← mergeParameters (shared ++ own)
  let requestBody ← requestBody document (Value.lookup "requestBody" operation)
  let responses ← responses document (Value.lookup "responses" operation)
  return {
    path
    method := Text.upper verb
    operationId := (text? "operationId" operation).filter (· ≠ "")
    parameters
    requestBody
    responses
    tags := tags (Value.lookup "tags" operation) }

def pathEndpoints (document : Linked) (path : String) (raw : Entries) :
    Except ExtractError (List Endpoint) := do
  let item ← follow document raw
  let operations := verbs.filterMap fun verb =>
    ((Value.lookup verb item).bind Value.entries?).map (verb, ·)
  operations.mapM fun (verb, operation) => endpoint document path verb item operation

def endpoints (document : Linked) (paths : Entries) : Except ExtractError (List Endpoint) := do
  let items := paths.filterMap fun
    | (.text path, item) => item.entries?.map (path, ·)
    | _ => none
  return (← items.mapM fun (path, item) => pathEndpoints document path item).flatten

def version : Option Value → Except ExtractError String
  | none | some (.scalar .null) => .ok ""
  | some v => if v.isWritable then .ok v.plain else .error .longInteger

def info (document : Value) : Except ExtractError Info := do
  match document.get? "info" >>= Value.entries? with
  | some entries =>
    return {
      title := (text? "title" entries).getD ""
      version := ← version (Value.lookup "version" entries)
      description := text? "description" entries }
  | none => return {}

def schemas (document : Value) : List (String × Option Schema) :=
  let named := document.get? "components" >>= Value.get? "schemas" >>= Value.entries?
  (named.getD []).filterMap fun
    | (.text name, raw) => some (name, if raw.isMap then some (Schema.ofValue raw) else none)
    | _ => none

end Extract

def Spec.ofDocument (document : Value) : Except ExtractError Spec :=
  match document.get? "paths" >>= Value.entries? with
  | some paths => do
    let endpoints ← Extract.endpoints (Linked.ofValue document) paths
    let info ← Extract.info document
    return { info, endpoints, schemas := Extract.schemas document }
  | none => .error .missingPaths

end TypedClient
