import TypedClient.Target.Imported.Completion
import TypedClient.Target.ModelLibrary

namespace TypedClient.Target

namespace Imported

def isField : Object → Bool
  | .field .. => true
  | _ => false

def privateField? (names : List (String × Object)) : Option String :=
  (names.find? fun (name, o) => isField o && name.toList.head? = some '_').map (·.1)

def fieldState (names : List (String × Object)) (f : ModelField) : Outcome FieldState := do
  return ⟨f.name, f.alias', f.required, ← term f.hint, (names.lookup f.name).getD .null, none⟩

/-- A model is bound after its fields have been looked at, which see it all the same. -/
def create (m : Imported) (c : Class) (names : List (String × Object)) : Outcome Imported :=
  match privateField? names with
  | some name => .error (.privateField name)
  | none => do
    let index := m.models.length
    let sight := m.sight.within ((c.title, .model index c.title) :: (names ++ m.classNames))
    let fields ← pendingFields sight (← c.fields.mapM (fieldState names))
    let s : ModelState := ⟨c.title, fields, false, "", none⟩
    let (m, fault) := { m with models := m.models ++ [s] }.complete index s
    let m := m.bind c.title (.model index c.title)
    match fault, m.models[index]? with
    | some (.undefined missing), some s => .ok (m.setModel index { s with missing })
    | some e, _ => .error e
    | none, _ => .ok m

end Imported

def ModelState.describe (s : ModelState) : Outcome Shape :=
  match s.undescribed with
  | some reason => .error (.undescribed reason)
  | none => .ok s.shape

def ModelLibrary.standard : ModelLibrary where
  create := Imported.create
  complete := Imported.complete
  describe := ModelState.describe

end TypedClient.Target
