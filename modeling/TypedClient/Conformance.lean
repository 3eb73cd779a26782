import TypedClient.Document.Shape

namespace TypedClient

inductive OpenApiForm
  | document
  | info
  | contact
  | license
  | server
  | serverVariable
  | pathItem
  | operation
  | documentation
  | tag
  | parameter
  | header
  | requestBody
  | mediaType
  | encoding
  | response
  | link
  | sample
  | schema
  | discriminator
  | markup
  | components
  | securityScheme
  | flows
  | flow

namespace OpenApiForm

abbrev Allowed := Rule OpenApiForm

def needed (key : String) (rule : Allowed) : Member OpenApiForm := ⟨key, true, rule, none⟩

def given (key : String) (rule : Allowed) : Member OpenApiForm := ⟨key, false, rule, none⟩

def optional (key : String) (rule : Allowed) : Member OpenApiForm :=
  ⟨key, false, .either .null rule, none⟩

def also (second : String) (member : Member OpenApiForm) : Member OpenApiForm :=
  { member with secondKey := some second }

def texts (keys : List String) : List (Member OpenApiForm) := keys.map (optional · .text)

def flags (keys : List String) : List (Member OpenApiForm) := keys.map (given · .flag)

def listOf (rule : Allowed) : Allowed := .list 0 rule

def linkedTo (form : OpenApiForm) : Allowed := .linked (.object form)

def isVersion (s : String) : Bool :=
  match Text.split '.' s with
  | [major, minor, _] =>
    major == "3"
      && match Text.readInt minor with
        | some n => n ≤ 1
        | none => false
  | _ => false

def isPlace (s : String) : Bool := ["query", "path", "header", "cookie"].contains s

def isKind (s : String) : Bool :=
  ["string", "number", "integer", "boolean", "array", "object", "null"].contains s

def paths : Allowed := .table (.object .pathItem)

def security : Member OpenApiForm := optional "security" (listOf (.table (listOf .text)))

def parameters : Member OpenApiForm := optional "parameters" (listOf (linkedTo .parameter))

def servers : Member OpenApiForm := optional "servers" (listOf (.object .server))

def headers : Member OpenApiForm := optional "headers" (.table (linkedTo .header))

def examples : Member OpenApiForm := optional "examples" (.table (linkedTo .sample))

def content : Allowed := .table (.object .mediaType)

def documentationMember : Member OpenApiForm := optional "externalDocs" (.object .documentation)

def parameterMembers : List (Member OpenApiForm) :=
  texts ["description", "style"]
    ++ flags ["required", "deprecated", "allowEmptyValue", "explode", "allowReserved"]
    ++ [also "param_schema" (optional "schema" (linkedTo .schema)), examples,
      optional "content" content]

def schemaMembers : List (Member OpenApiForm) :=
  texts ["title", "pattern", "description"]
    ++ [also "schema_format" (optional "format" .text),
      also "schema_not" (optional "not" (linkedTo .schema)),
      optional "items" (linkedTo .schema)]
    ++ [optional "multipleOf" .positive, optional "maximum" .number, optional "minimum" .number]
    ++ ["exclusiveMaximum", "exclusiveMinimum"].map (optional · (.either .flag .number))
    ++ ["maxLength", "minLength", "maxItems", "minItems", "maxProperties", "minProperties"].map
      (optional · .count)
    ++ ["uniqueItems", "readOnly", "writeOnly", "deprecated"].map (optional · .flag)
    ++ flags ["nullable"]
    ++ [optional "required" (listOf .text), optional "enum" (.list 1 .anything),
      given "const" .literal, optional "type" (.either (.word isKind) (listOf (.word isKind)))]
    ++ ["allOf", "oneOf", "anyOf", "prefixItems"].map (given · (listOf (linkedTo .schema)))
    ++ [optional "properties" (.table (linkedTo .schema)),
      optional "additionalProperties" (.either .flag (linkedTo .schema)),
      optional "discriminator" (.object .discriminator), optional "xml" (.object .markup),
      documentationMember]

def componentMembers : List (Member OpenApiForm) :=
  [("schemas", schema), ("responses", response), ("parameters", parameter), ("examples", sample),
   ("requestBodies", requestBody), ("headers", header), ("securitySchemes", securityScheme),
   ("links", link)].map (fun (key, form) => optional key (.table (linkedTo form)))
    ++ [optional "callbacks" (.table (.linked paths))]

def verbs : List String :=
  ["get", "put", "post", "delete", "options", "head", "patch", "trace"]

def members : OpenApiForm → List (Member OpenApiForm)
  | document =>
    [needed "openapi" (.word isVersion), needed "info" (.object info), needed "paths" paths,
     given "servers" (listOf (.object server)), optional "components" (.object components),
     security, optional "tags" (listOf (.object tag)), documentationMember]
  | info =>
    needed "title" .text :: needed "version" .text :: texts ["description", "termsOfService"]
      ++ [optional "contact" (.object contact), optional "license" (.object license)]
  | contact => texts ["name", "url", "email"]
  | license => needed "name" .text :: texts ["url"]
  | server =>
    needed "url" .text :: texts ["description"]
      ++ [optional "variables" (.table (.object serverVariable))]
  | serverVariable =>
    needed "default" .text :: optional "enum" (listOf .text) :: texts ["description"]
  | pathItem =>
    also "ref" (optional "$ref" .text)
      :: texts ["summary", "description"] ++ verbs.map (optional · (.object operation))
      ++ [servers, parameters]
  | operation =>
    needed "responses" (.table (linkedTo response)) :: optional "tags" (listOf .text)
      :: texts ["summary", "description", "operationId"] ++ flags ["deprecated"]
      ++ [documentationMember, parameters, optional "requestBody" (linkedTo requestBody),
        optional "callbacks" (.table paths), security, servers]
  | documentation => needed "url" .text :: texts ["description"]
  | tag => needed "name" .text :: documentationMember :: texts ["description"]
  | parameter =>
    needed "name" .text :: also "param_in" (needed "in" (.word isPlace)) :: parameterMembers
  | header => parameterMembers
  | requestBody => needed "content" content :: texts ["description"] ++ flags ["required"]
  | mediaType =>
    [also "media_type_schema" (optional "schema" (linkedTo schema)), examples,
     optional "encoding" (.table (.object encoding))]
  | encoding => headers :: texts ["contentType", "style"] ++ flags ["explode", "allowReserved"]
  | response =>
    [needed "description" .text, headers, optional "content" content,
     optional "links" (.table (linkedTo link))]
  | link =>
    texts ["operationRef", "operationId", "description"]
      ++ [optional "parameters" (.table .anything), optional "server" (.object server)]
  | sample => texts ["summary", "description", "externalValue"]
  | schema => schemaMembers
  | discriminator => [needed "propertyName" .text, optional "mapping" (.table .text)]
  | markup => texts ["name", "namespace", "prefix"] ++ flags ["attribute", "wrapped"]
  | components => componentMembers
  | securityScheme =>
    needed "type" .text :: optional "flows" (.object flows)
      :: also "security_scheme_in" (optional "in" .text)
      :: texts ["description", "name", "scheme", "bearerFormat", "openIdConnectUrl"]
  | flows =>
    ["implicit", "password", "clientCredentials", "authorizationCode"].map
      (optional · (.object flow))
  | flow =>
    needed "scopes" (.table .text) :: texts ["authorizationUrl", "tokenUrl", "refreshUrl"]

def isCounted : OpenApiForm → Bool
  | document | info | contact | license | serverVariable | encoding | tag | discriminator => false
  | markup | components | securityScheme | flows => false
  | _ => true

def forms : Forms OpenApiForm := ⟨members, isCounted⟩

def depthLimit : Nat := 255

end OpenApiForm

def Value.conforms (document : Value) : Bool :=
  document.fits OpenApiForm.forms OpenApiForm.depthLimit (.object .document)

end TypedClient
