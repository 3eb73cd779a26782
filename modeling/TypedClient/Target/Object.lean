import TypedClient.Document.Written

namespace TypedClient.Target

inductive Object
  | constant (value : Scalar)
  | imaginary (value : Binary64)
  | ellipsis
  | tuple (items : List Object)
  | list (items : List Object)
  | set (items : List Object)
  | dict (entries : List (Object × Object))
  | slice (bounds : List Object)
  | model (index : Nat) (name : String)
  | client (name : String)
  | builtinClass (name : String)
  | libraryClass (source name : String)
  | modelBase
  | library (name : String)
  | typeAlias (index : Nat) (name : String)
  | form (name : String)
  | formed (form : String) (args : List Object)
  | generic (origin : Object) (args : List Object)
  /-- Types joined by a bar are joined plainly, all others by a form. -/
  | union (isPlain : Bool) (choices : List Object)
  | forward (text : String)
  | function (name : String)
  | libraryFunction (source name : String)
  | field (isRequired : Bool) (sourceName : String) (factory : List Object)
  | record (className : String) (fields : List (String × Object))
  | other (kind written : String)
  deriving Inhabited

namespace Object

mutual

def beq : Object → Object → Bool
  | constant v, constant w => v == w
  | imaginary x, imaginary y => x == y
  | ellipsis, ellipsis => true
  | tuple items, tuple items' => beqAll items items'
  | list items, list items' => beqAll items items'
  | set items, set items' => beqAll items items'
  | dict entries, dict entries' => beqEntries entries entries'
  | slice bounds, slice bounds' => beqAll bounds bounds'
  | model index name, model index' name' => index == index' && name == name'
  | client name, client name' => name == name'
  | builtinClass name, builtinClass name' => name == name'
  | libraryClass source name, libraryClass source' name' => source == source' && name == name'
  | modelBase, modelBase => true
  | library name, library name' => name == name'
  | typeAlias index name, typeAlias index' name' => index == index' && name == name'
  | form name, form name' => name == name'
  | formed name args, formed name' args' => name == name' && beqAll args args'
  | generic origin args, generic origin' args' => beq origin origin' && beqAll args args'
  | union isPlain choices, union isPlain' choices' =>
    isPlain == isPlain' && beqAll choices choices'
  | forward text, forward text' => text == text'
  | function name, function name' => name == name'
  | libraryFunction source name, libraryFunction source' name' =>
    source == source' && name == name'
  | field isRequired sourceName factory, field isRequired' sourceName' factory' =>
    isRequired == isRequired' && sourceName == sourceName' && beqAll factory factory'
  | record className fields, record className' fields' =>
    className == className' && beqFields fields fields'
  | other kind written, other kind' written' => kind == kind' && written == written'
  | _, _ => false

def beqAll : List Object → List Object → Bool
  | [], [] => true
  | o :: rest, o' :: rest' => beq o o' && beqAll rest rest'
  | _, _ => false

def beqEntries : List (Object × Object) → List (Object × Object) → Bool
  | [], [] => true
  | (key, o) :: rest, (key', o') :: rest' =>
    beq key key' && beq o o' && beqEntries rest rest'
  | _, _ => false

def beqFields : List (String × Object) → List (String × Object) → Bool
  | [], [] => true
  | (name, o) :: rest, (name', o') :: rest' =>
    name == name' && beq o o' && beqFields rest rest'
  | _, _ => false

end

instance : BEq Object := ⟨beq⟩

def null : Object := .constant .null

def ofBool (b : Bool) : Object := .constant (.bool b)

def ofInt (n : Int) : Object := .constant (.int n)

def ofText (s : String) : Object := .constant (.text s)

def notImplemented : Object := .other "NotImplementedType" "NotImplemented"

def feature : Object := .other "_Feature" "_Feature((3, 7, 0, 'beta', 1), None, 16777216)"

def builtinFunction (name : String) : Object :=
  .other "builtin_function_or_method" s!"<built-in function {name}>"

def any : Object := .libraryClass "typing" "Any"

def scalarKind : Scalar → String
  | .null => "NoneType"
  | .bool _ => "bool"
  | .int _ => "int"
  | .float _ => "float"
  | .text _ => "str"
  | .bytes _ => "bytes"
  | .date _ => "date"
  | .timestamp _ => "datetime"

def formKind : String → String
  | "Optional" => "_SpecialForm"
  | "Union" => "_SpecialForm"
  | "Callable" => "_CallableType"
  | "Tuple" => "_TupleType"
  | _ => "_SpecialGenericAlias"

def kind : Object → String
  | constant v => scalarKind v
  | imaginary _ => "complex"
  | ellipsis => "ellipsis"
  | tuple _ => "tuple"
  | list _ => "list"
  | set _ => "set"
  | dict _ => "dict"
  | slice _ => "slice"
  | model .. => "ModelMetaclass"
  | modelBase => "ModelMetaclass"
  | client _ => "type"
  | builtinClass _ => "type"
  | libraryClass _ name => if name = "Any" then "_AnyMeta" else "type"
  | library _ => "module"
  | typeAlias .. => "TypeAliasType"
  | form name => formKind name
  | formed "Callable" _ => "_CallableGenericAlias"
  | formed .. => "_GenericAlias"
  | generic .. => "types.GenericAlias"
  | union true _ => "types.UnionType"
  | union false _ => "_UnionGenericAlias"
  | forward _ => "ForwardRef"
  | function _ => "function"
  | libraryFunction .. => "function"
  | field .. => "FieldInfo"
  | record name _ => name
  | other kind _ => kind

def isClass : Object → Bool
  | model .. => true
  | modelBase => true
  | client _ => true
  | builtinClass _ => true
  | libraryClass .. => true
  | _ => false

def moduleName (number : Nat) : String := s!"generated_client_{number}"

def writtenBuiltin (name : String) : String :=
  if name = "EnvironmentError" ∨ name = "IOError" then "OSError" else name

def className? (number : Nat) : Object → Option String
  | model _ name => some (moduleName number ++ "." ++ name)
  | client name => some (moduleName number ++ "." ++ name)
  | builtinClass name => some (writtenBuiltin name)
  | libraryClass source name => some (source ++ "." ++ name)
  | modelBase => some "pydantic.main.BaseModel"
  | constant .null => some "None"
  | ellipsis => some "..."
  | _ => none

def separated (parts : List String) : String := ", ".intercalate parts

def writtenTuple : List String → String
  | [part] => "(" ++ part ++ ",)"
  | parts => "(" ++ separated parts ++ ")"

def writtenImaginary (x : Binary64) : String :=
  let s := (numberLayout.render x).toList
  let short := if ['.', '0'].isSuffixOf s then s.take (s.length - 2) else s
  String.ofList short ++ "j"

def isNull : Object → Bool
  | constant .null => true
  | _ => false

def writtenUnion : List Bool → List String → String
  | [false, true], [first, _] => "typing.Optional[" ++ first ++ "]"
  | [true, false], [_, second] => "typing.Optional[" ++ second ++ "]"
  | nulls, names =>
    "typing.Union["
      ++ separated ((nulls.zip names).map fun (isNull, name) => if isNull then "NoneType" else name)
      ++ "]"

mutual

def written (number : Nat) : Object → String
  | constant v => v.written
  | imaginary x => writtenImaginary x
  | ellipsis => "Ellipsis"
  | tuple items => writtenTuple (writtenAll number items)
  | list items => "[" ++ separated (writtenAll number items) ++ "]"
  | set [] => "set()"
  | set items => "\x7b" ++ separated (writtenAll number items) ++ "\x7d"
  | dict entries => "\x7b" ++ separated (writtenEntries number entries) ++ "\x7d"
  | slice bounds => "slice(" ++ separated (writtenAll number bounds) ++ ")"
  | model _ name => s!"<class '{moduleName number}.{name}'>"
  | client name => s!"<class '{moduleName number}.{name}'>"
  | builtinClass name => s!"<class '{writtenBuiltin name}'>"
  | libraryClass "typing" "Any" => "typing.Any"
  | libraryClass source name => s!"<class '{source}.{name}'>"
  | modelBase => "<class 'pydantic.main.BaseModel'>"
  | library name => s!"<module '{name}'>"
  | typeAlias _ name => name
  | form name => "typing." ++ name
  | formed name args => "typing." ++ name ++ "[" ++ separated (writtenTypes number args) ++ "]"
  | generic origin args =>
    (className? number origin).getD (origin.written number) ++ "["
      ++ separated (writtenTypes number args) ++ "]"
  | union true choices => " | ".intercalate (writtenTypes number choices)
  | union false choices => writtenUnion (choices.map isNull) (writtenTypes number choices)
  | forward text => "ForwardRef(" ++ Text.quoted text ++ ")"
  | function name => s!"<function {name}>"
  | libraryFunction _ name => s!"<function {name}>"
  | field isRequired sourceName factory =>
    let value :=
      if isRequired then []
      else if factory.isEmpty then ["default=None"]
      else (writtenTypes number factory).map ("default_factory=" ++ ·)
    "FieldInfo(" ++ separated
        (["annotation=NoneType", "required=" ++ if isRequired then "True" else "False"] ++ value
          ++ ["alias=" ++ Text.quoted sourceName, "alias_priority=2"])
      ++ ")"
  | record name fields => name ++ "(" ++ separated (writtenFields number fields) ++ ")"
  | other _ written => written

def writtenAll (number : Nat) : List Object → List String
  | [] => []
  | o :: rest => o.written number :: writtenAll number rest

def writtenEntries (number : Nat) : List (Object × Object) → List String
  | [] => []
  | (key, o) :: rest =>
    (key.written number ++ ": " ++ o.written number) :: writtenEntries number rest

def writtenFields (number : Nat) : List (String × Object) → List String
  | [] => []
  | (name, o) :: rest => (name ++ "=" ++ o.written number) :: writtenFields number rest

def writtenTypes (number : Nat) : List Object → List String
  | [] => []
  | o :: rest => (className? number o).getD (o.written number) :: writtenTypes number rest

end

def unhashableKinds : List String := ["list", "set", "dict", "slice"]

mutual

def unhashable? : Object → Option Object
  | tuple items => unhashableIn? items
  | generic _ args => unhashableIn? args
  | formed _ args => unhashableIn? args
  | union _ choices => unhashableIn? choices
  | record name fields => some (record name fields)
  | o => if unhashableKinds.contains o.kind then some o else none

def unhashableIn? : List Object → Option Object
  | [] => none
  | o :: rest =>
    match unhashable? o with
    | some part => some part
    | none => unhashableIn? rest

end

/-- Whether two objects count as the same: numbers by their value. -/
def same (a b : Object) : Bool :=
  match a, b with
  | constant v, constant w => v.sameKey w
  | a, b => a == b

def isTrue : Object → Bool
  | constant .null => false
  | constant (.bool b) => b
  | constant (.int n) => n != 0
  | constant (.float x) => !x.isZero
  | constant (.text s) => s != ""
  | constant (.bytes bs) => !bs.isEmpty
  | imaginary x => !x.isZero
  | tuple items => !items.isEmpty
  | list items => !items.isEmpty
  | set items => !items.isEmpty
  | dict entries => !entries.isEmpty
  | _ => true

end Object

end TypedClient.Target
