import TypedClient.Target.Imported

/-!
Completion of models: a model is complete once all its hints stand for types and every type has a
schema. A hint with a name that is not yet defined waits. Aliases may not stand for each other.
-/

namespace TypedClient.Target.Imported

def classNames (m : Imported) : List (String × Object) :=
  [("model_config", .dict [(.ofText "populate_by_name", .ofBool true)]),
   ("__module__", .ofText (Object.moduleName m.number)), ("__doc__", .null)]

/-- The place of a model's hints, where the model that is being completed can be seen too. -/
def hintSight (m : Imported) (index : Nat) (name : String) (first : List (String × Object)) :
    Sight :=
  m.sight.within ((name, .model index name) :: (m.classNames ++ first))

def settledField (sight : Sight) (f : FieldState) : Outcome FieldState :=
  match f.type with
  | some _ => .ok f
  | none => do return { f with type := some (← Object.ofHint sight f.hint) }

def settledFields (sight : Sight) (fields : List FieldState) : Outcome (List FieldState) :=
  fields.mapM (settledField sight)

def pendingField (sight : Sight) (f : FieldState) : Outcome FieldState :=
  match Object.ofHint sight f.hint with
  | .ok o => if o == f.default then .error .ownHint else .ok { f with type := some o }
  | .error (.undefined _) => .ok f
  | .error e => .error e

def pendingFields (sight : Sight) (fields : List FieldState) : Outcome (List FieldState) :=
  fields.mapM (pendingField sight)

structure Trace where
  seen : List Reference
  undescribed : Option Undescribed

def Trace.note (trace : Trace) (reason : Undescribed) : Trace :=
  { trace with undescribed := some (trace.undescribed.getD reason) }

def schemaClasses : List (String × String) :=
  [("typing", "Any"), ("datetime", "date"), ("datetime", "datetime"), ("datetime", "time"),
   ("datetime", "timedelta"), ("decimal", "Decimal"), ("uuid", "UUID")]

def schemaBuiltins : List String :=
  ["str", "int", "float", "bool", "bytes", "complex", "object", "tuple", "list", "set",
   "frozenset", "dict", "type"]

def isEllipsis : Object → Bool
  | .ellipsis => true
  | _ => false

def isClassLike (o : Object) : Bool :=
  o.isClass || o.isAlias || !(Object.choices o).tail.isEmpty

def countedArgs (origin : String) (args : List Object) : Outcome Nat :=
  match origin with
  | "dict" =>
    if args.length = 1 then misfit (.pairArguments (.builtinClass origin) 1) else .ok 2
  | "tuple" =>
    .ok (if (args.getLast?.map isEllipsis).getD false then args.length - 1 else args.length)
  | "type" =>
    match args.find? (!isClassLike ·) with
    | some o => misfit (.noClass o)
    | none => .ok 0
  | _ => .ok 1

mutual

/-- Whether a type has a schema, and all types that it is made of. Definitions are entered by
`enter`. Of several types to choose from those without a description are left out. -/
def trace (enter : Trace → Reference → Outcome Trace) (t : Trace) : Object → Outcome Trace
  | .constant .null => .ok t
  | .model index _ => enter t (.model index)
  | .typeAlias index _ => enter t (.alias index)
  | .modelBase => .ok t
  | .builtinClass name =>
    if name = "type" then .ok (t.note .metaclass)
    else if schemaBuiltins.contains name then .ok t
    else .error (.noSchema (.builtinClass name))
  | .libraryClass source name =>
    if schemaClasses.contains (source, name) then .ok t
    else .error (.noSchema (.libraryClass source name))
  | .form "Callable" => .ok (t.note .callable)
  | .form name =>
    if Object.formKind name = "_SpecialForm" then .error (.noSchema (.form name)) else .ok t
  | .formed "Callable" _ => .ok (t.note .callable)
  | .formed _ args => traceFirst enter args.length t args
  | .generic (.builtinClass origin) args => do
    if schemaBuiltins.contains origin then traceFirst enter (← countedArgs origin args) t args
    else .error (.noSchema (.generic (.builtinClass origin) args))
  | .union _ types => do
    let after ← traceFirst enter types.length t types
    if (types.filter (!Object.isNull ·)).length ≤ 1 then return after
    else return { after with undescribed := t.undescribed }
  | .function _ => .ok t
  | o => .error (.noSchema o)

def traceFirst (enter : Trace → Reference → Outcome Trace) (count : Nat) (t : Trace) :
    List Object → Outcome Trace
  | [] => .ok t
  | o :: rest => do
    if count = 0 then return t else traceFirst enter (count - 1) (← trace enter t o) rest

end

def traceFields (enter : Trace → Reference → Outcome Trace) (t : Trace) (fields : List FieldState) :
    Outcome Trace :=
  traceFirst enter fields.length t (fields.filterMap (·.type))

/-- Enters a definition that has not been looked at: a complete model tells what is known of it,
another one shows the types of its fields, an alias its value. Definitions are nested at most as
deep as there are some. -/
def enter (m : Imported) (first : List (String × Object)) (depth : Nat) (t : Trace)
    (r : Reference) : Outcome Trace :=
  match depth, t.seen.contains r, r with
  | 0, _, _ => .ok t
  | _, true, _ => .ok t
  | depth + 1, false, .model index =>
    match m.models[index]? with
    | none => .ok t
    | some s =>
      let t := { t with seen := r :: t.seen }
      if s.isComplete then .ok ((s.undescribed.map t.note).getD t)
      else do
        let fields ← settledFields (m.hintSight index s.name first) s.fields
        traceFields (m.enter first depth) t fields
  | depth + 1, false, .alias index =>
    match m.aliases[index]? with
    | none => .ok t
    | some s => do
      let o ← Object.ofAlias m.sight (m.sight.within first) s.value
      trace (m.enter first depth) { t with seen := r :: t.seen } o

def aliasTarget? (m : Imported) (first : List (String × Object)) (index : Nat) : Option Nat := do
  let s ← m.aliases[index]?
  match Object.ofAlias m.sight (m.sight.within first) s.value with
  | .ok (.typeAlias target _) => some target
  | _ => none

def leadsOn (m : Imported) (first : List (String × Object)) : Nat → Nat → Bool
  | 0, _ => true
  | steps + 1, index =>
    match m.aliasTarget? first index with
    | some target => leadsOn m first steps target
    | none => false

/-- An alias among these that stands for another again and again. As many steps as there are
aliases come back to one of them. -/
def circular? (m : Imported) (first : List (String × Object)) (seen : List Reference) :
    Option String :=
  seen.findSome? fun
    | .alias index =>
      if m.leadsOn first m.aliases.length index then (m.aliases[index]?).map (·.name) else none
    | .model _ => none

def definitionCount (m : Imported) : Nat := m.models.length + m.aliases.length

/-- Tries to complete a model, and tells why it cannot be. Types that were found are kept. -/
def complete (m : Imported) (index : Nat) (s : ModelState) : Imported × Option Fault :=
  let first := [(s.name, .model index s.name)]
  match settledFields (m.hintSight index s.name []) s.fields with
  | .error e => (m, some e)
  | .ok fields =>
    let s := { s with fields }
    let m := m.setModel index s
    match traceFields (m.enter first m.definitionCount) ⟨[.model index], none⟩ fields with
    | .error e => (m, some e)
    | .ok t =>
      match m.circular? first t.seen with
      | some name => (m, some (.circular name))
      | none =>
        (m.setModel index { s with isComplete := true, undescribed := t.undescribed }, none)

end TypedClient.Target.Imported
