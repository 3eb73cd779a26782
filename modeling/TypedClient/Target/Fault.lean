import TypedClient.Target.Object
import TypedClient.Target.Term

namespace TypedClient.Target

def UnaryOp.symbol : UnaryOp → String
  | plus => "+"
  | minus => "-"
  | invert => "~"
  | not => "not"

def BinaryOp.symbol : BinaryOp → String
  | bitOr => "|"
  | bitXor => "^"
  | bitAnd => "&"
  | shiftLeft => "<<"
  | shiftRight => ">>"
  | add => "+"
  | sub => "-"
  | mul => "*"
  | div => "/"
  | floorDiv => "//"
  | mod => "%"
  | matMul => "@"
  | pow => "** or pow()"

def Comparison.symbol : Comparison → String
  | eq => "=="
  | ne => "!="
  | lt => "<"
  | le => "<="
  | gt => ">"
  | ge => ">="
  | isSame => "is"
  | isOther => "is not"
  | isIn => "in"
  | isNotIn => "not in"

inductive ZeroDivision
  | quotient
  | wholeQuotient
  | remainder
  | floatQuotient
  | floatWholeQuotient
  | floatRemainder
  | power
  deriving DecidableEq

def ZeroDivision.message : ZeroDivision → String
  | quotient => "division by zero"
  | wholeQuotient => "integer division or modulo by zero"
  | remainder => "integer modulo by zero"
  | floatQuotient => "float division by zero"
  | floatWholeQuotient => "float floor division by zero"
  | floatRemainder => "float modulo"
  | power => "0.0 cannot be raised to a negative power"

inductive Misfit
  | operands (op : BinaryOp) (left right : Object)
  | operand (op : UnaryOp) (operand : Object)
  | order (op : Comparison) (left right : Object)
  | concatenation (left right : Object)
  | repetition (count : Object)
  | container (o : Object)
  | textContainer (item : Object)
  | source (o : Object)
  | unpacking (o : Object)
  | subscripted (o : Object)
  | called (o : Object)
  | key (o : Object)
  | modelArguments (o : Object)
  | noParameters (o : Object)
  | aliasArguments
  | emptyUnion
  | typeArguments (form : String) (given expected : Nat)
  | pairArguments (origin : Object) (given : Nat)
  | severalTypes (context : String) (types : Object)
  | bareForm (o : Object)
  | noClass (o : Object)
  | instantiated (o : Object)
  | positional (given : Nat)

inductive Undescribed
  | metaclass
  | callable
  deriving DecidableEq

inductive Fault
  | undefined (name : String)
  | noMember (owner : Object) (name : String)
  | misfit (reason : Misfit)
  | zeroDivision (reason : ZeroDivision)
  | negativeShift
  | unreadable (text : String)
  | noSchema (o : Object)
  | undescribed (reason : Undescribed)
  | privateField (name : String)
  /-- An alias that stands for itself in the end. -/
  | circular (name : String)
  | ownHint
  | bareRecord
  | unfinished (name missing : String)
  | incompleteRecord (name : String) (missing : List String)

namespace Object

def className : Object → String
  | model _ name => name
  | client name => name
  | builtinClass name => writtenBuiltin name
  | libraryClass source name => if source = "typing" then name else source ++ "." ++ name
  | modelBase => "BaseModel"
  | o => o.kind

def noMemberMessage (name : String) : Object → String
  | model .. => name
  | modelBase => name
  | form _ => name
  | formed .. => name
  | union false _ => name
  | library source => s!"module '{source}' has no attribute '{name}'"
  | generic origin _ => noMemberMessage name origin
  | o =>
    if o.isClass then s!"type object '{o.className}' has no attribute '{name}'"
    else s!"'{o.kind}' object has no attribute '{name}'"

end Object

def shortly (s : String) : String := String.ofList (s.toList.take 100)

def Misfit.message (number : Nat) : Misfit → String
  | operands op left right =>
    s!"unsupported operand type(s) for {op.symbol}: '{left.kind}' and '{right.kind}'"
  | operand op o => s!"bad operand type for unary {op.symbol}: '{o.kind}'"
  | order op left right =>
    s!"'{op.symbol}' not supported between instances of '{left.kind}' and '{right.kind}'"
  | concatenation left right =>
    if left.kind = "bytes" then s!"can't concat {right.kind} to bytes"
    else s!"can only concatenate {left.kind} (not \x22{right.kind}\x22) to {left.kind}"
  | repetition count => s!"can't multiply sequence by non-int of type '{count.kind}'"
  | container o => s!"argument of type '{o.kind}' is not iterable"
  | textContainer o => s!"'in <string>' requires string as left operand, not {o.kind}"
  | source o => s!"'{o.kind}' object is not iterable"
  | unpacking o => s!"Value after * must be an iterable, not {o.kind}"
  | subscripted o =>
    if o.isClass then s!"type '{o.className}' is not subscriptable"
    else s!"'{o.kind}' object is not subscriptable"
  | called o => s!"'{o.kind}' object is not callable"
  | key o => s!"unhashable type: '{o.kind}'"
  | modelArguments o =>
    o.written number ++ " cannot be parametrized because it does not inherit from typing.Generic"
  | noParameters o => o.written number ++ " is not a generic class"
  | emptyUnion => "Cannot take a Union of no types."
  | aliasArguments => "Only generic type aliases are subscriptable"
  | typeArguments form given expected =>
    let degree := if expected < given then "many" else "few"
    s!"Too {degree} arguments for typing.{form}; actual {given}, expected {expected}"
  | pairArguments origin given =>
    s!"Expected two type arguments for {origin.written number}, got {given}"
  | severalTypes context types => s!"{context} Got {shortly (types.written number)}."
  | bareForm o => s!"Plain {o.written number} is not valid as type argument"
  | noClass o => "Expected a class, got " ++ o.written number
  | positional given =>
    s!"BaseModel.__init__() takes 1 positional argument but {given + 1} were given"
  | instantiated o => "Cannot instantiate " ++ o.written number

def Undescribed.message : Undescribed → String
  | metaclass => "core_schema.IsInstanceSchema (<class 'type'>)"
  | callable => "core_schema.CallableSchema"

namespace Fault

def helpPage (topic : String) : String :=
  "\n\nFor further information visit https://" ++ "errors.pydantic.dev/2.14/u/" ++ topic

def suggestion (name : String) : String :=
  let rest := String.ofList (name.toList.dropWhile (· == '_'))
  if rest = "" then "my_field" else rest

def missingField (sourceName : String) : String :=
  sourceName ++ "\n  Field required [type=missing, input_value=\x7b\x7d, input_type=dict]\n"
    ++ "    For further information visit https://" ++ "errors.pydantic.dev/2.14/v/missing"

def message (number : Nat) : Fault → String
  | undefined name => s!"name '{name}' is not defined"
  | noMember owner name => owner.noMemberMessage name
  | misfit reason => reason.message number
  | zeroDivision reason => reason.message
  | negativeShift => "negative shift count"
  | unreadable text => "Forward reference must be an expression -- got " ++ Text.quoted text
  | noSchema o =>
    "Unable to generate pydantic-core schema for " ++ o.written number
      ++ ". Set `arbitrary_types_allowed=True` in the model_config to ignore this error or"
      ++ " implement `__get_pydantic_core_schema__` on your type to fully support it."
      ++ "\n\nIf you got this error by calling handler(<some type>) within"
      ++ " `__get_pydantic_core_schema__` then you likely need to call"
      ++ " `handler.generate_schema(<some type>)` since we do not call"
      ++ " `__get_pydantic_core_schema__` on `<some type>` otherwise to avoid infinite recursion."
      ++ helpPage "schema-for-unknown-type"
  | undescribed reason =>
    "Cannot generate a JsonSchema for " ++ reason.message ++ helpPage "invalid-for-json-schema"
  | privateField name =>
    "Fields must not use names with leading underscores; e.g., use "
      ++ Text.quoted (suggestion name) ++ " instead of " ++ Text.quoted name ++ "."
  | circular name =>
    name ++ " contains a circular reference to itself." ++ helpPage "circular-reference-schema"
  | ownHint =>
    "Error when building FieldInfo from annotated attribute. Make sure you don't have any field"
      ++ " name clashing with a type annotation." ++ helpPage "unevaluable-type-annotation"
  | bareRecord =>
    "Pydantic models should inherit from BaseModel, BaseModel cannot be instantiated directly"
      ++ helpPage "base-model-instantiated"
  | unfinished name missing =>
    s!"`{name}` is not fully defined; you should define `{missing}`, then call"
      ++ s!" `{name}.model_rebuild()`." ++ helpPage "class-not-fully-defined"
  | incompleteRecord name missing =>
    let errors := if missing.length = 1 then "error" else "errors"
    s!"{missing.length} validation {errors} for {name}\n"
      ++ "\n".intercalate (missing.map missingField)

/-- Whether a module with this fault counts as one that cannot be imported. -/
def spoilsImport : Fault → Bool
  | undefined _ => true
  | misfit _ => true
  | unreadable _ => true
  | _ => false

/-- Whether a fault is told of a model whose fields cannot be completed. -/
def spoilsModel : Fault → Bool
  | undefined _ => true
  | noSchema _ => true
  | privateField _ => true
  | circular _ => true
  | ownHint => true
  | bareRecord => true
  | unfinished .. => true
  | _ => false

end Fault

end TypedClient.Target
