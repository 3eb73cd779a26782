import TypedClient.Document.Value
import TypedClient.Text.Split

namespace TypedClient

inductive Schema
  | primitive (kind : String) (format : Option String)
  | reference (name : String)
  | array (item : Schema)
  | object (properties : List (String × Schema)) (required : List String)
  | untyped
  deriving Inhabited

namespace Schema

def targetName (pointer : String) : String := ((Text.split '/' pointer).getLast?).getD ""

def primaryType : Value → Option String
  | .scalar (.text s) => some s
  | v => (v.items?.getD []).findSome? fun item => item.text?.filter (· ≠ "null")

def requiredNames (v : Option Value) : List String :=
  (((v.bind Value.items?).getD []).filterMap Value.text?).eraseDups

def primitiveKinds : List String := ["string", "integer", "number", "boolean"]

mutual

def ofValue : Value → Schema
  | .map entries =>
    match (Value.lookup "$ref" entries).bind Value.text? with
    | some pointer => .reference (targetName pointer)
    | none =>
      let kind := (Value.lookup "type" entries).bind primaryType
      if kind = some "array" then .array (ofItems entries)
      else
        match kind.filter (· ∈ primitiveKinds) with
        | some kind => .primitive kind ((Value.lookup "format" entries).bind Value.text?)
        | none =>
          if kind = some "object" ∨ ((Value.lookup "properties" entries).any Value.isMap) then
            .object (ofProperties entries) (requiredNames (Value.lookup "required" entries))
          else .untyped
  | .named _ v => ofValue v
  | _ => .untyped

def ofItems : List Entry → Schema
  | [] => .untyped
  | (k, v) :: rest => if k = .text "items" then ofValue v else ofItems rest

def ofProperties : List Entry → List (String × Schema)
  | [] => []
  | (k, v) :: rest => if k = .text "properties" then ofFields v else ofProperties rest

def ofFields : Value → List (String × Schema)
  | .map entries => ofEntries entries
  | .named _ v => ofFields v
  | _ => []

def ofEntries : List Entry → List (String × Schema)
  | [] => []
  | (.text name, v) :: rest => (name, ofValue v) :: ofEntries rest
  | _ :: rest => ofEntries rest

end

mutual

def references : Schema → List String
  | .primitive .. => []
  | .reference name => [name]
  | .array item => item.references
  | .object properties _ => propertyReferences properties
  | .untyped => []

def propertyReferences : List (String × Schema) → List String
  | [] => []
  | (_, schema) :: rest => schema.references ++ propertyReferences rest

end

end Schema

end TypedClient
