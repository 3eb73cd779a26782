import TypedClient.Target.Execution
import TypedClient.Target.Printer

/-!
What a signature asks of a call. Defaults are evaluated once, where the function is defined; a call
binds its arguments to the parameters, first by position and then by name.
-/

namespace TypedClient.Target

namespace Signature

structure Valid (s : Signature) : Prop where
  defaults : s.defaults.length ≤ s.positional.length
  trailing : s.positionalDefaults.Pairwise fun before after => before.isSome → after.isSome
  keywordDefaults : s.keywordDefaults.length = s.keywordOnly.length
  nodup : (s.arguments.map (·.name)).Nodup

end Signature

namespace Execution

structure Slot where
  name : String
  default : Option Datum

structure Slots where
  positional : List Slot
  keywordOnly : List Slot

def evalDefaults (scope : List String) :
    List (Option Expr) → State → Result (List (Option Datum) × State)
  | [], s => return ([], s)
  | none :: rest, s => do
    let (ds, s) ← evalDefaults scope rest s
    return (none :: ds, s)
  | some e :: rest, s => do
    let (d, s) ← eval scope e s
    let (ds, s) ← evalDefaults scope rest s
    return (some d :: ds, s)

def slotsOf (arguments : List Argument) (defaults : List (Option Datum)) : List Slot :=
  arguments.zipWith (fun argument default => ⟨argument.name, default⟩) defaults

def define (scope : List String) (signature : Signature) (s : State) : Result (Slots × State) := do
  let (positional, s) ← evalDefaults scope signature.positionalDefaults s
  let (keywordOnly, s) ← evalDefaults scope signature.keywordDefaults s
  return (⟨slotsOf signature.positional positional, slotsOf signature.keywordOnly keywordOnly⟩, s)

inductive BindError
  | unexpected (name : String)
  | repeated (name : String)
  | tooMany (given : Nat)
  | missing (names : List String)

abbrev Bound := List (String × Datum)

def bindKeywords (names : List String) (bound : Bound) : Bound → Except BindError Bound
  | [] => .ok bound
  | (name, d) :: rest =>
    if name ∉ names then .error (.unexpected name)
    else if name ∈ bound.map (·.1) then .error (.repeated name)
    else bindKeywords names (bound ++ [(name, d)]) rest

def Slot.value? (bound : Bound) (slot : Slot) : Option Datum :=
  (bound.lookup slot.name).or slot.default

def checkMissing (bound : Bound) (slots : List Slot) : Except BindError Unit :=
  match slots.filter fun slot => (slot.value? bound).isNone with
  | [] => .ok ()
  | missing => .error (.missing (missing.map (·.name)))

namespace Slots

def all (slots : Slots) : List Slot := slots.positional ++ slots.keywordOnly

def names (slots : Slots) : List String := slots.all.map (·.name)

def bindPositional (slots : Slots) (args : List Datum) : Bound :=
  (slots.positional.map (·.name)).zip args

def bind (slots : Slots) (args : List Datum) (keywords : Bound) : Except BindError Bound := do
  let bound ← bindKeywords slots.names (slots.bindPositional args) keywords
  if slots.positional.length < args.length then throw (.tooMany args.length)
  checkMissing bound slots.positional
  checkMissing bound slots.keywordOnly
  return slots.all.filterMap fun slot => (slot.value? bound).map (slot.name, ·)

end Slots

end Execution

end TypedClient.Target
