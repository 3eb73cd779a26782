import TypedClient.Target.Printer
import TypedClient.Target.Sight

namespace TypedClient.Target

structure FieldState where
  name : String
  sourceName : String
  isRequired : Bool
  hint : Term
  default : Object
  type : Option Object

structure ModelState where
  name : String
  fields : List FieldState
  isComplete : Bool
  missing : String
  undescribed : Option Undescribed

structure AliasState where
  name : String
  value : Term

structure Imported where
  number : Nat
  names : List (String × Object)
  models : List ModelState
  aliases : List AliasState

inductive Reference
  | model (index : Nat)
  | alias (index : Nat)
  deriving DecidableEq

def rebind (names : List (String × Object)) (name : String) (o : Object) :
    List (String × Object) :=
  if names.any (·.1 == name) then names.map fun (n, p) => if n == name then (n, o) else (n, p)
  else names ++ [(name, o)]

namespace FieldState

def value (f : FieldState) : Object :=
  match f.default with
  | .field _ _ (factory :: _) => (factory.empty?).getD .null
  | _ => .null

end FieldState

namespace ModelState

def build (s : ModelState) : Outcome Object :=
  match s.isComplete, s.fields.filter (·.isRequired) with
  | false, _ => .error (.unfinished s.name s.missing)
  | true, [] => .ok (.record s.name (s.fields.map fun f => (f.name, f.value)))
  | true, fs => .error (.incompleteRecord s.name (fs.map (·.sourceName)))

end ModelState

namespace Imported

def term (e : Expr) : Outcome Term :=
  match Term.ofText? 0 e.text with
  | some t => .ok t
  | none => .error (.unreadable e.text)

def start (number : Nat) (doc : String) : Imported :=
  { number
    names :=
      [("__name__", .ofText (Object.moduleName number)), ("__doc__", .ofText doc),
       ("__package__", .ofText ""), ("__loader__", .other "SourceFileLoader" "SourceFileLoader"),
       ("__spec__", .other "ModuleSpec" "ModuleSpec"), ("__file__", .ofText "/"),
       ("__cached__", .ofText "/"), ("__builtins__", builtinNamespace)]
    models := []
    aliases := [] }

/-- A record of a model. A model whose fields are not yet known builds none. -/
def build (m : Imported) (index : Nat) : Outcome Object :=
  match m.models[index]? with
  | some s => s.build
  | none => .error .bareRecord

def sight (m : Imported) : Sight := ⟨m.names, m.build⟩

def bind (m : Imported) (name : String) (o : Object) : Imported :=
  { m with names := rebind m.names name o }

def setModel (m : Imported) (index : Nat) (s : ModelState) : Imported :=
  { m with models := m.models.set index s }

end Imported

end TypedClient.Target
