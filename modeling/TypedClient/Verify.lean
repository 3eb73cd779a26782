import TypedClient.FileSystem
import TypedClient.Plan
import TypedClient.Report
import TypedClient.Target.Attribute
import TypedClient.Target.Importable
import TypedClient.Target.Imported.Definition
import TypedClient.Text.Sorted

/-!
Checks a generated module against schemas and plans: models have the properties of their schemas,
methods the parameters of their plans. What importing the module would come to is told from its
syntax.
-/

namespace TypedClient

open Target

inductive VerifyError
  | unimportable (path : Path)
  | fault (number : Nat) (cause : Target.Fault)
  | raised (message : String)

namespace VerifyError

def message : VerifyError → String
  | unimportable path => s!"Generated module {path.toString} failed to import"
  | fault number cause => cause.message number
  | raised message => message

/-- Whether an error is told to the user; a module that breaks off ends the program. -/
def isReported : VerifyError → Bool
  | unimportable _ => true
  | fault .. => false
  | raised _ => false

end VerifyError

namespace Verify

def texts (names : List String) : Value := .list (names.map .text)

def compare (subject path : String) (expected actual : List String) : List Mismatch :=
  if actual = expected then [] else [⟨subject, path, texts expected, .value (texts actual)⟩]

def boundModels (m : Imported) : List Nat :=
  m.names.filterMap fun
    | (_, .model index _) => some index
    | _ => none

def obstacle (number : Nat) (cause : Target.Fault) : String :=
  match cause with
  | .undefined _ => cause.message number ++ Target.Fault.helpPage "undefined-annotation"
  | cause => cause.message number

/-- Completes the models that are still waiting, and tells of those that cannot be. -/
def completeAll (library : ModelLibrary) (m : Imported) :
    List Nat → Outcome (Imported × List Mismatch)
  | [] => .ok (m, [])
  | index :: rest =>
    match (m.models[index]?).filter (!·.isComplete) with
    | none => completeAll library m rest
    | some s =>
      match library.complete m index s with
      | (m, none) => completeAll library m rest
      | (m, some cause) =>
        if cause.spoilsModel then do
          let (m, mismatches) ← completeAll library m rest
          return (m,
            ⟨s.name, "$.annotations", .text "resolvable annotations",
              .value (.text (obstacle m.number cause))⟩ :: mismatches)
        else .error cause

def found (m : Imported) : Option Object → Found
  | none => .value .null
  | some o => .object m.number o

def checkModel (library : ModelLibrary) (m : Imported) (name : String)
    (properties : List (String × Schema)) (required : List String) : Outcome (List Mismatch) :=
  let names := properties.map (·.1)
  match m.lookup? name with
  | some (.model index _) =>
    match (m.models[index]?).filter (·.isComplete) with
    | none => .ok []
    | some s => do
      let shape ← library.describe s
      return compare name "$.properties" names (shape.map (·.1))
        ++ compare name "$.required" (Text.sorted (required.filter (names.contains ·)))
          (Text.sorted ((shape.filter (·.2)).map (·.1)))
  | other => .ok [⟨name, "$", .text "model", found m other⟩]

def checkAlias (m : Imported) (name : String) : List Mismatch :=
  match m.lookup? name with
  | some (.typeAlias ..) => []
  | other => [⟨name, "$", .text "type alias", .value (.text (other.getD .null).kind)⟩]

def checkSchema (library : ModelLibrary) (m : Imported) :
    String × Schema → Outcome (List Mismatch)
  | (name, .object properties required) => checkModel library m name properties required
  | (name, _) => .ok (checkAlias m name)

def checkSchemas (library : ModelLibrary) (m : Imported) :
    List (String × Schema) → Outcome (List Mismatch)
  | [] => .ok []
  | schema :: rest => do
    let mismatches ← checkSchema library m schema
    return mismatches ++ (← checkSchemas library m rest)

def clientClass? (source : Module) (m : Imported) (className : String) : Option Target.Class :=
  match m.lookup? className with
  | some (.client _) =>
    source.items.findSome? fun
      | .classDef c => if c.isModel then none else some c
      | _ => none
  | _ => none

def checkMethod (source : Module) (m : Imported) (className : String) (plan : Plan) :
    List Mismatch :=
  let subject := className ++ "." ++ plan.methodName
  let mismatch (actual : Found) : Mismatch := ⟨subject, "$", .text "async method", actual⟩
  match (clientClass? source m className).bind fun c =>
      (c.attribute? m.number plan.methodName).map (c, ·) with
  | none => [mismatch (.value .null)]
  | some (_, .object o) => [mismatch (found m (some o))]
  | some (c, .method f) =>
    if f.isAsync then
      compare subject "$.parameters" (plan.parameters.map (·.name)) (c.parameterNames f)
    else [mismatch (found m (some (.function subject)))]

def report (library : ModelLibrary) (source : Module) (m : Imported) (options : Options)
    (spec : Spec) : Outcome Report := do
  let (m, unresolved) ← completeAll library m (boundModels m)
  let definitions ← checkSchemas library m spec.definedSchemas
  return {
    verified := (spec.definedSchemas.length + spec.plans.length : Nat)
    mismatches :=
      unresolved ++ definitions ++ spec.plans.flatMap (checkMethod source m options.className) }

end Verify

/-- What the verification of a module comes to in which every name is no more than a name. -/
def Target.Module.examine (library : ModelLibrary) (m : Module) (path : Path) (number : Nat)
    (options : Options) (spec : Spec) : Except VerifyError Report :=
  if !m.isReadable then .error (.unimportable path)
  else
    match m.import? library number with
    | .error cause =>
      .error (if cause.spoilsImport then .unimportable path else .fault number cause)
    | .ok imported => (Verify.report library m imported options spec).mapError (.fault number)

end TypedClient
