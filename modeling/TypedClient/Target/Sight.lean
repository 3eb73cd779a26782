import TypedClient.Target.Object.Operation

namespace TypedClient.Target

/-- The names in sight, the nearest first, and what a call of a model without arguments gives. -/
structure Sight where
  names : List (String × Object)
  build : Nat → Outcome Object

namespace Sight

def lookup (sight : Sight) (name : String) : Outcome Object :=
  match sight.names.lookup name, builtin? name with
  | some o, _ => .ok o
  | none, some o => .ok o
  | none, none => .error (.undefined name)

def within (sight : Sight) (names : List (String × Object)) : Sight :=
  { sight with names := names ++ sight.names }

end Sight

namespace Object

def ofLiteral : Literal → Object
  | .none => .null
  | .bool b => .ofBool b
  | .ellipsis => .ellipsis
  | .int n => .ofInt n
  | .float x => .constant (.float x)
  | .imaginary x => .imaginary x
  | .text s => .ofText s
  | .bytes bs => .constant (.bytes bs)

def empty? : Object → Option Object
  | builtinClass "str" => some (.ofText "")
  | builtinClass "int" => some (.ofInt 0)
  | builtinClass "float" => some (.constant (.float ⟨0⟩))
  | builtinClass "bool" => some (.ofBool false)
  | builtinClass "bytes" => some (.constant (.bytes []))
  | builtinClass "complex" => some (.imaginary ⟨0⟩)
  | builtinClass "list" => some (.list [])
  | builtinClass "tuple" => some (.tuple [])
  | builtinClass "set" => some (.set [])
  | builtinClass "dict" => some (.dict [])
  | libraryClass "decimal" "Decimal" => some (.other "decimal.Decimal" "Decimal('0')")
  | _ => none

def declaredField (args : List Object) (keywords : List (String × Object)) : Object :=
  let factory := (keywords.lookup "default_factory").toList
  let isRequired := factory.isEmpty && !(args.head?.map (· != .ellipsis)).getD false
  match keywords.lookup "alias" with
  | some (constant (.text s)) => field isRequired s factory
  | _ => field isRequired "" factory

def call (sight : Sight) (f : Object) (args : List Object) (keywords : List (String × Object)) :
    Outcome Object :=
  match f with
  | model index _ =>
    if args.isEmpty then sight.build index else misfit (.positional args.length)
  | modelBase =>
    if args.isEmpty then .error .bareRecord else misfit (.positional args.length)
  | libraryFunction "pydantic" "Field" => .ok (declaredField args keywords)
  | libraryClass "pydantic" "ConfigDict" =>
    .ok (dict (keywords.map fun (key, o) => (.ofText key, o)))
  | generic origin _ => ((empty? origin).map .ok).getD (misfit (.called f))
  | form name => misfit (.instantiated (form name))
  | formed name _ => misfit (.instantiated (form name))
  | union false _ => misfit (.instantiated (form "Union"))
  | f =>
    match if args.isEmpty then empty? f else none with
    | some o => .ok o
    | none => misfit (.called f)

def hashed (o : Object) : Outcome Object :=
  match unhashable? o with
  | some part => misfit (.key part)
  | none => .ok o

mutual

def ofTerm (sight : Sight) : Term → Outcome Object
  | .name id => sight.lookup id
  | .literal v => .ok (ofLiteral v)
  | .attribute value name => do (← ofTerm sight value).member name
  | .subscript value index => do
    let o ← ofTerm sight value
    o.subscript (← ofTerm sight index)
  | .slice bounds => do return slice (← ofTerms sight bounds)
  | .call f args keywords => do
    let f ← ofTerm sight f
    let args ← ofTerms sight args
    call sight f args (← ofKeywords sight keywords)
  | .unary op operand => do unary op (← ofTerm sight operand)
  | .binary op left right => do
    let left ← ofTerm sight left
    binary op left (← ofTerm sight right)
  | .compare first rest => do ofComparisons sight (← ofTerm sight first) rest
  | .conjunction left right => do
    let o ← ofTerm sight left
    if o.isTrue then ofTerm sight right else return o
  | .disjunction left right => do
    let o ← ofTerm sight left
    if o.isTrue then return o else ofTerm sight right
  | .conditional test body otherwise => do
    if (← ofTerm sight test).isTrue then ofTerm sight body else ofTerm sight otherwise
  | .function defaults => do
    let _ ← ofTerms sight defaults
    return function "<lambda>"
  | .tuple ts => do return tuple (← ofTerms sight ts)
  | .list ts => do return list (← ofTerms sight ts)
  | .set ts => do return set (distinct (← (← ofTerms sight ts).mapM hashed))
  | .dict entries => do return dict ((← ofEntries sight entries).foldl putEntry [])
  | .unpacked value => ofTerm sight value
  | .comprehension source => do
    let o ← ofTerm sight source
    if o.items?.isSome then return list [] else misfit (.source o)

def ofTerms (sight : Sight) : List Term → Outcome (List Object)
  | [] => .ok []
  | .unpacked value :: rest => do
    let o ← ofTerm sight value
    match o.items? with
    | some items => return items ++ (← ofTerms sight rest)
    | none => misfit (.unpacking o)
  | t :: rest => do
    let o ← ofTerm sight t
    return o :: (← ofTerms sight rest)

def ofKeywords (sight : Sight) : List (String × Term) → Outcome (List (String × Object))
  | [] => .ok []
  | (key, t) :: rest => do
    let o ← ofTerm sight t
    return (key, o) :: (← ofKeywords sight rest)

def ofEntries (sight : Sight) : List (Term × Term) → Outcome (List (Object × Object))
  | [] => .ok []
  | (key, t) :: rest => do
    let key ← ofTerm sight key
    let o ← ofTerm sight t
    return (← hashed key, o) :: (← ofEntries sight rest)

def ofComparisons (sight : Sight) (left : Object) : List (Comparison × Term) → Outcome Object
  | [] => .ok left
  | (op, t) :: rest => do
    let right ← ofTerm sight t
    let holds ← compared op left right
    if holds && !rest.isEmpty then ofComparisons sight right rest else return .ofBool holds

end

mutual

def settle (read : String → Outcome Object) : Object → Outcome Object
  | forward text => read text
  | generic origin args => do return generic origin (← settleAll read args)
  | formed name args => do return formed name (← settleAll read args)
  | union isPlain types => do choice isPlain (← settleAll read types)
  | o => .ok o

def settleAll (read : String → Outcome Object) : List Object → Outcome (List Object)
  | [] => .ok []
  | constant (.text s) :: rest => do
    let o ← read s
    return o :: (← settleAll read rest)
  | o :: rest => do
    let o ← settle read o
    return o :: (← settleAll read rest)

end

def hintContext : String := "Forward references must evaluate to types."

def nesting : Nat := 64

def read (depth : Nat) (sight : Sight) (s : String) : Outcome Object :=
  match depth, hintTerm? s with
  | depth + 1, some t => do
    settle (read depth sight) (← asType hintContext (← ofTerm sight t))
  | _, _ => .error (.unreadable s)

def ofHint (sight : Sight) (t : Term) : Outcome Object := do
  settle (read nesting sight) (← asType hintContext (← ofTerm sight t))

/-- The type that an alias stands for. Its value is looked up in the module, the texts inside it
where the alias is used. -/
def ofAlias (outer inner : Sight) (t : Term) : Outcome Object := do
  match ← ofTerm outer t with
  | constant (.text s) => read nesting inner s
  | o => settle (read nesting inner) o

end Object

end TypedClient.Target
