import TypedClient.Schema

namespace TypedClient

inductive Location
  | path
  | query
  deriving DecidableEq

structure Parameter where
  name : String
  location : Location
  schema : Schema
  required : Bool

abbrev Content := List (String × Schema)

structure Endpoint where
  path : String
  method : String
  operationId : Option String := none
  parameters : List Parameter := []
  requestBody : Option Content := none
  responses : List (String × Content) := []
  tags : List String := []

structure Info where
  title : String := ""
  version : String := ""
  description : Option String := none

/-- What a client is generated from. A schema entry that is no map is kept without a schema. -/
structure Spec where
  info : Info := {}
  endpoints : List Endpoint := []
  schemas : List (String × Option Schema) := []

def Spec.definedSchemas (spec : Spec) : List (String × Schema) :=
  spec.schemas.filterMap fun (name, schema) => schema.map (name, ·)

structure Options where
  className : String := "ApiClient"
  moduleName : String := "GeneratedClient"

end TypedClient
