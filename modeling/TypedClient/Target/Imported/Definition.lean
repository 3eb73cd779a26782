import TypedClient.Target.ModelLibrary

namespace TypedClient.Target

namespace Imported

def runBody (sight : Sight) (c : Class) (names : List (String × Object)) :
    List Member → Outcome (List (String × Object))
  | [] => .ok names
  | .stmt (.assign (.name target) value) :: rest => do
    let o ← Object.ofTerm (sight.within names) (← term value)
    runBody sight c (rebind names (c.bound target) o) rest
  | .stmt (.annotated target _ value) :: rest => do
    let o ← Object.ofTerm (sight.within names) (← term value)
    runBody sight c (rebind names (c.bound target) o) rest
  | _ :: rest => runBody sight c names rest

def addModel (library : ModelLibrary) (m : Imported) (c : Class) : Outcome Imported := do
  let _ ← (← c.bases.mapM term).mapM (Object.ofTerm m.sight)
  library.create m c (← runBody m.sight c [] c.members)

def reservedMethods : List String := ["__slots__", "__qualname__", "__classcell__"]

def addClient (m : Imported) (c : Class) : Outcome Imported :=
  match (c.functions.map fun f => c.bound f.name).find? reservedMethods.contains with
  | some name => misfit (.source (.function name))
  | none => .ok (m.bind c.title (.client c.title))

def add (library : ModelLibrary) (m : Imported) : Item → Outcome Imported
  | .lateAnnotations => .ok (m.bind "annotations" .feature)
  | .imported name => .ok (m.bind name (.library name))
  | .typeAlias name value => do
    let value ← term value
    let name := bound name
    let added : Imported := { m with aliases := m.aliases ++ [⟨name, value⟩] }
    return added.bind name (.typeAlias m.aliases.length name)
  | .classDef c => if c.isModel then m.addModel library c else m.addClient c

end Imported

def Module.import? (library : ModelLibrary) (m : Module) (number : Nat) : Outcome Imported :=
  m.items.foldlM (Imported.add library) (Imported.start number m.doc)

end TypedClient.Target
