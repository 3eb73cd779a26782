import TypedClient.Target.Object.Arithmetic
import TypedClient.Target.Term.Reading

namespace TypedClient.Target.Object

def hintTerm? (s : String) : Option Term :=
  if (s.toList.head?.map Lexeme.isSpace).getD false then none else Term.ofText? 0 s

def asType (context : String) : Object → Outcome Object
  | constant (.text s) =>
    if (hintTerm? s).isSome then .ok (forward s) else .error (.unreadable s)
  | tuple items => misfit (.severalTypes context (tuple items))
  | form name =>
    if formKind name = "_SpecialForm" then misfit (.bareForm (form name)) else .ok (form name)
  | o => .ok o

def choices : Object → List Object
  | union _ cs => cs
  | o => [o]

def choice (isPlain : Bool) (types : List Object) : Outcome Object :=
  let types := types.flatMap choices
  match unhashableIn? types, distinct types with
  | some part, _ => misfit (.key part)
  | none, [o] => .ok o
  | none, types => .ok (union isPlain types)

def unionContext : String := "Union[arg, ...]: each arg must be a type."

def chosen (types : List Object) : Outcome Object := do
  choice false (← types.mapM (asType unionContext))

def isPlainType : Object → Bool
  | generic .. => true
  | union true _ => true
  | o => o.isClass

def isForm : Object → Bool
  | form _ => true
  | formed .. => true
  | union false _ => true
  | _ => false

def isAlias : Object → Bool
  | typeAlias .. => true
  | _ => false

def isJoinable (o : Object) : Bool := o.isPlainType || o.isNull

def joined? (left right : Object) : Option (Outcome Object) :=
  if left.isForm || right.isForm then some (chosen [left, right])
  else if (left.isAlias && (right.isAlias || right.isJoinable))
      || (right.isAlias && left.isJoinable) then some (chosen [left, right])
  else if (left.isPlainType && right.isJoinable) || (left.isJoinable && right.isPlainType) then
    some (choice true [left, right])
  else none

end TypedClient.Target.Object
