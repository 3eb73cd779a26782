import TypedClient.Target.Builtin
import TypedClient.Target.Object.Choice

namespace TypedClient.Target.Object

def binary (op : BinaryOp) (left right : Object) : Outcome Object :=
  match numeric? op left right, sequence? op left right, collection? op left right with
  | some o, _, _ => o
  | none, some o, _ => o
  | none, none, some o => .ok o
  | none, none, none =>
    match if op = .bitOr then joined? left right else none with
    | some o => o
    | none => misfit (.operands op left right)

def unary (op : UnaryOp) (o : Object) : Outcome Object :=
  match op, o.int?, o with
  | .not, _, o => .ok (.ofBool !o.isTrue)
  | .plus, some n, _ => .ok (.ofInt n)
  | .minus, some n, _ => .ok (.ofInt (-n))
  | .invert, some n, _ => .ok (.ofInt (-n - 1))
  | .plus, none, constant (.float x) => .ok (constant (.float x))
  | .minus, none, constant (.float x) => .ok (constant (.float x.negate))
  | .plus, none, imaginary x => .ok (imaginary x)
  | .minus, none, imaginary x => .ok (.other "complex" s!"(-0-{writtenImaginary x})")
  | op, _, o => misfit (.operand op o)

def ofOrder (op : Comparison) (order : Ordering) : Bool :=
  match op with
  | .lt => order == .lt
  | .le => order != .gt
  | .gt => order == .gt
  | _ => order != .lt

def ordered? (left right : Object) : Option Ordering :=
  match left.int?, right.int?, left, right with
  | some m, some n, _, _ => some (compare m n)
  | _, _, constant (.text s), constant (.text t) => some (compare s t)
  | _, _, _, _ => do
    let x ← left.float?
    let y ← right.float?
    some (if x < y then .lt else if x == y then .eq else .gt)

def items? : Object → Option (List Object)
  | tuple items => some items
  | list items => some items
  | set items => some items
  | dict entries => some (entries.map (·.1))
  | constant (.text s) => some (s.toList.map fun c => .ofText c.toString)
  | constant (.bytes bs) => some (bs.map fun b => .ofInt b.toNat)
  | _ => none

def contains (collection item : Object) : Outcome Bool :=
  match collection, item with
  | constant (.text s), constant (.text part) => .ok (Text.contains s part)
  | constant (.text _), item => misfit (.textContainer item)
  | collection, item =>
    match collection.items? with
    | some items => .ok (isIn items item)
    | none => misfit (.container collection)

def compared (op : Comparison) (left right : Object) : Outcome Bool :=
  match op with
  | .eq => .ok (same left right)
  | .ne => .ok !(same left right)
  | .isSame => .ok (left == right)
  | .isOther => .ok (left != right)
  | .isIn => right.contains left
  | .isNotIn => (right.contains left).map (!·)
  | op =>
    match ordered? left right with
    | some order => .ok (ofOrder op order)
    | none => misfit (.order op left right)

def classMember? (name : String) (o : Object) : Option Object :=
  if !o.isClass then none
  else if name = "__name__" ∨ name = "__qualname__" then some (.ofText o.className)
  else if name = "__doc__" ∧ !(o.kind = "type") then some .null
  else none

def member (name : String) : Object → Outcome Object
  | library source =>
    match (libraryMembers source).lookup name with
    | some o => .ok o
    | none =>
      if name = "__name__" then .ok (.ofText source) else .error (.noMember (library source) name)
  | typeAlias index alias' =>
    if name = "__name__" then .ok (.ofText alias')
    else .error (.noMember (typeAlias index alias') name)
  | generic origin _ => member name origin
  | o => ((classMember? name o).map .ok).getD (.error (.noMember o name))

def indices : Object → List Object
  | tuple items => items
  | o => [o]

def genericContext : String := "Parameters to generic types must be types."

def formedBy (name : String) (index : Object) : Outcome Object :=
  match name, indices index with
  | "Optional", _ => do
    choice false [← asType "typing.Optional requires a single type." index, .null]
  | "Union", [] => misfit .emptyUnion
  | "Union", types => chosen types
  | "Callable", types => .ok (formed name types)
  | _, types => do
    match (typingForms.lookup name).join with
    | some expected =>
      if types.length = expected then .ok (formed name (← types.mapM (asType genericContext)))
      else misfit (.typeArguments name types.length expected)
    | none => .ok (formed name (← types.mapM (asType genericContext)))

def itemAt? (items : List Object) (n : Int) : Option Object :=
  if 0 ≤ n then items[n.toNat]? else (items.reverse)[(-n - 1).toNat]?

def subscript (o index : Object) : Outcome Object :=
  match o with
  | model .. =>
    match unhashable? index with
    | some part => misfit (.key part)
    | none => misfit (.modelArguments o)
  | builtinClass name =>
    if genericClasses.contains name then .ok (generic o (indices index))
    else misfit (.subscripted o)
  | typeAlias .. => misfit .aliasArguments
  | form name => formedBy name index
  | generic .. => misfit (.noParameters o)
  | union .. => misfit (.noParameters o)
  | formed .. => misfit (.noParameters o)
  | o =>
    match if o.isSequence then o.items? else none, index.int? with
    | some items, some n => ((itemAt? items n).map .ok).getD (misfit (.subscripted o))
    | _, _ => misfit (.subscripted o)

end TypedClient.Target.Object
