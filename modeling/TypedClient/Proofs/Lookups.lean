import TypedClient.Proofs.Imports
import TypedClient.Proofs.Request
import TypedClient.Target.Class

namespace TypedClient

open Target

namespace Target

def isHidden (name : String) : Bool := ['_', '_'].isPrefixOf name.toList

theorem Class.bound_eq (c : Class) {name : String} (hbound : Target.bound name = name)
    (hvisible : isHidden name = false) : c.bound name = name := by
  have hvisible : ['_', '_'].isPrefixOf name.toList = false := hvisible
  simp [bound, hbound, privateName, hvisible]

/-- A name that is looked up, with the names that the body around it binds. -/
structure Lookup where
  locals : List String
  name : String

namespace Stmt

mutual

def evaluated : Stmt → List Expr
  | expr value => [value]
  | assign (.name _) value => [value]
  | assign target value => [target, value]
  | annotated _ _ value => [value]
  | ret value => [value]
  | ifThen test body => test :: evaluatedAll body

def evaluatedAll : List Stmt → List Expr
  | [] => []
  | s :: rest => evaluated s ++ evaluatedAll rest

end

end Stmt

def Function.names (f : Function) : List String :=
  (Stmt.evaluatedAll f.body).flatMap Expr.names

def Function.lookups (f : Function) (c : Class) : List Lookup :=
  f.names.map fun name => ⟨(Execution.scope f).map c.bound, c.bound name⟩

def Member.targets : Member → List String
  | .stmt s => Execution.targets s
  | .function f => [f.name]

def Class.scope (c : Class) : List String := (c.body.flatMap Member.targets).map c.bound

/-- Hints are kept as texts, in which no name is private, and methods do not see what the class
around them binds. -/
def Member.lookups (c : Class) : Member → List Lookup
  | .stmt (.annotated _ hint value) =>
    (hint.names.map Target.bound ++ value.names.map c.bound).map (⟨c.scope, ·⟩)
  | .stmt _ => []
  | .function f => f.lookups c

def Item.lookups : Item → List Lookup
  | .typeAlias _ value => value.names.map fun name => ⟨[], Target.bound name⟩
  | .classDef c => c.body.flatMap (Member.lookups c)
  | _ => []

def Module.lookups (m : Module) : List Lookup := m.items.flatMap Item.lookups

end Target

/-- A name that is looked up with what it is meant for; one without a meaning is a variable of the
body around it. -/
structure Use where
  locals : List String
  name : String
  meaning? : Option Meaning
  deriving DecidableEq

namespace Use

def own (locals : List String) (name : String) : Use := ⟨locals, name, none⟩

def of (locals : List String) (bind : String → String) (m : Meaning) : Use :=
  ⟨locals, bind m.name, some m⟩

def lookup (u : Use) : Lookup := ⟨u.locals, u.name⟩

@[simp] theorem lookup_own (locals : List String) (name : String) :
    (own locals name).lookup = ⟨locals, name⟩ := rfl

@[simp] theorem lookup_of (locals : List String) (bind : String → String) (m : Meaning) :
    (of locals bind m).lookup = ⟨locals, bind m.name⟩ := rfl

end Use

namespace Field

def meanings (f : Field) : List Meaning := f.type.meanings ++ f.defaultMeanings

end Field

namespace Definition

def scope (name : String) (fields : List Field) : List String :=
  ("model_config" :: fields.map (·.name)).map (Render.modelClass name fields).bound

def uses : Definition → List Use
  | model name fields =>
    fields.flatMap fun f =>
      f.type.meanings.map (.of (scope name fields) Target.bound)
        ++ f.defaultMeanings.map (.of (scope name fields) (Render.modelClass name fields).bound)
  | typeAlias _ type => type.meanings.map (.of [] Target.bound)

end Definition

namespace Plan

def scope (plan : Plan) (bind : String → String) : List String :=
  (Execution.scope (Render.method plan)).map bind

def variablesBefore (plan : Plan) : List String :=
  (if plan.queryParameters = [] then []
    else plan.queryParameters.flatMap (fun p => [p.name, "_query"]) ++ ["_query", "_query"])
    ++ ["self", "_path"]

def variablesAfter (plan : Plan) : List String := plan.body.toList.map (·.name)

def fixedLocals (plan : Plan) : List String :=
  ["self", "_path"] ++ if plan.queryParameters = [] then [] else ["_query"]

def uses (bind : String → String) (plan : Plan) : List Use :=
  plan.variablesBefore.map (.own (plan.scope bind) ∘ bind)
    ++ (plan.returnType.toList.flatMap TypeExpr.meanings).map (.of (plan.scope bind) bind)
    ++ plan.variablesAfter.map (.own (plan.scope bind) ∘ bind)

end Plan

namespace Render

def supportUse (bind : String → String) (f : Function) (name : String) : Use :=
  let locals := (Execution.scope f).map bind
  if name ∈ ["pydantic", "pydantic_core"] then .of locals bind (.imported name)
  else .own locals (bind name)

def supportUses (bind : String → String) (f : Function) : List Use :=
  f.names.map (supportUse bind f)

end Render

namespace Spec

def client (spec : Spec) (options : Options) : Target.Class :=
  Render.clientClass options.className spec.plans

def uses (spec : Spec) (options : Options) : List Use :=
  let bind := (spec.client options).bound
  spec.definitions.flatMap Definition.uses
    ++ (Render.supportUses bind Render.constructor ++ spec.plans.flatMap (Plan.uses bind)
      ++ (Render.supportUses bind Render.send ++ Render.supportUses bind Render.sendNoContent))

end Spec

namespace Target.Expr

@[simp] theorem names_await (value : Expr) : (await value).names = value.names := rfl

@[simp] theorem names_isNotNone (operand : Expr) : (isNotNone operand).names = operand.names := rfl

@[simp] theorem names_list (items : List Expr) : (list items).names = namesAll items := rfl

@[simp] theorem names_formatted (parts : List FormatPart) : (formatted parts).names = [] := rfl

@[simp] theorem names_add (left right : Expr) :
    (add left right).names = left.names ++ right.names := by
  rw [names, subterms, List.filterMap_cons_none rfl, List.filterMap_append]
  rfl

@[simp] theorem names_conditional (test body otherwise : Expr) :
    (conditional test body otherwise).names = body.names ++ test.names ++ otherwise.names := by
  rw [names, subterms, List.filterMap_cons_none rfl, List.filterMap_append, List.filterMap_append]
  rfl

@[simp] theorem namesAll_append (xs ys : List Expr) :
    namesAll (xs ++ ys) = namesAll xs ++ namesAll ys := by
  induction xs with
  | nil => rfl
  | cons e rest ih => simp [ih]

end Target.Expr

namespace Render

theorem scope_modelClass (name : String) (fields : List Field) :
    (modelClass name fields).scope = Definition.scope name fields := by
  have htargets : (modelClass name fields).body.flatMap Member.targets =
      "model_config" :: fields.map (·.name) := by
    rw [modelClass, List.flatMap_cons, List.flatMap_map]
    change ["model_config"] ++ fields.flatMap (fun f => [f.name]) = _
    rw [← List.map_eq_flatMap]
    rfl
  rw [Class.scope, htargets, Definition.scope]

theorem lookups_definition (d : Definition) : (definition d).lookups = d.uses.map Use.lookup := by
  cases d with
  | model name fields =>
    have hfield : ∀ f, Member.lookups (modelClass name fields) (.stmt (fieldStatement f)) =
        (f.type.meanings.map (Use.of (Definition.scope name fields) Target.bound)
          ++ f.defaultMeanings.map
            (Use.of (Definition.scope name fields) (modelClass name fields).bound)).map
          Use.lookup := by
      intro f
      rw [fieldStatement, Member.lookups, ← f.type.means_toTarget.1,
        ← (means_fieldDefault f).1, scope_modelClass]
      simp [Function.comp_def]
    rw [definition, Item.lookups]
    change (Member.stmt modelConfig :: fields.map fun f => .stmt (fieldStatement f)).flatMap _ = _
    rw [List.flatMap_cons, List.flatMap_map, Definition.uses, List.map_flatMap]
    simp only [hfield]
    rfl
  | typeAlias name type =>
    rw [definition, Item.lookups, TypeExpr.names_toTarget, ← TypeExpr.map_name_meanings]
    simp [Definition.uses]

theorem evaluatedAll_append (xs ys : List Stmt) :
    Stmt.evaluatedAll (xs ++ ys) = Stmt.evaluatedAll xs ++ Stmt.evaluatedAll ys := by
  induction xs with
  | nil => rfl
  | cons s rest ih => simp [Stmt.evaluatedAll, ih]

theorem evaluatedAll_queryGuards (ps : List PlannedParameter) :
    (Stmt.evaluatedAll (ps.map queryGuard)).flatMap Expr.names =
      ps.flatMap fun p => [p.name, "_query"] := by
  induction ps with
  | nil => rfl
  | cons p rest ih =>
    simp [Stmt.evaluatedAll, Stmt.evaluated, queryGuard, queryVariable, Plan.queryVariable, ih]

theorem names_pathExpr (plan : Plan) : (pathExpr plan).names = [] := by
  unfold pathExpr formattedPath
  split <;> rfl

theorem names_pathStatements (plan : Plan) :
    (Stmt.evaluatedAll (pathStatements plan)).flatMap Expr.names =
      if plan.queryParameters = [] then []
      else plan.queryParameters.flatMap (fun p => [p.name, "_query"]) ++ ["_query", "_query"] := by
  by_cases hempty : plan.queryParameters = []
  · simp [pathStatements, hempty, pathVariable, Stmt.evaluatedAll, Stmt.evaluated, names_pathExpr]
  · simp [pathStatements, hempty, emptyQuery, pathVariable, Stmt.evaluatedAll, Stmt.evaluated,
      evaluatedAll_append, evaluatedAll_queryGuards, names_pathExpr, querySuffix, text,
      queryVariable, Plan.queryVariable]

theorem evaluated_dispatchStatement (plan : Plan) :
    (dispatchStatement plan).evaluated = [dispatch plan] := by
  unfold dispatchStatement
  split <;> rfl

theorem names_dispatch (plan : Plan) :
    (dispatch plan).names =
      ["self", "_path"] ++ (plan.returnType.toList.flatMap TypeExpr.meanings).map Meaning.name
        ++ plan.variablesAfter := by
  have htype : Expr.namesAll (plan.returnType.map TypeExpr.toTarget).toList =
      (plan.returnType.toList.flatMap TypeExpr.meanings).map Meaning.name := by
    cases plan.returnType with
    | none => rfl
    | some t => simp [TypeExpr.names_toTarget, TypeExpr.map_name_meanings]
  have hbody : Expr.namesAll (plan.body.map fun body => .name body.name).toList =
      plan.variablesAfter := by
    unfold Plan.variablesAfter
    cases plan.body <;> rfl
  simp [dispatch, htype, hbody, pathVariable, Plan.pathVariable, text]

theorem names_method (plan : Plan) :
    (method plan).names =
      plan.variablesBefore ++ (plan.returnType.toList.flatMap TypeExpr.meanings).map Meaning.name
        ++ plan.variablesAfter := by
  rw [Function.names, body_method, evaluatedAll_append, List.flatMap_append, names_pathStatements,
    Stmt.evaluatedAll, evaluated_dispatchStatement]
  simp [Stmt.evaluatedAll, names_dispatch, Plan.variablesBefore]

theorem lookups_method (plan : Plan) (c : Target.Class) :
    (method plan).lookups c = (plan.uses c.bound).map Use.lookup := by
  simp [Function.lookups, names_method, Plan.uses, Plan.scope, Function.comp_def]

theorem lookup_supportUse (bind : String → String) (f : Function) (name : String) :
    (supportUse bind f name).lookup = ⟨(Execution.scope f).map bind, bind name⟩ := by
  unfold supportUse
  dsimp only
  split <;> rfl

theorem lookups_support (f : Function) (c : Target.Class) :
    f.lookups c = (supportUses c.bound f).map Use.lookup := by
  simp [Function.lookups, supportUses, lookup_supportUse]

end Render

namespace Spec

theorem lookups_module (spec : Spec) (options : Options) :
    (spec.module options).lookups = (spec.uses options).map Use.lookup := by
  have hclient : (Item.classDef (spec.client options)).lookups =
      Render.constructor.lookups (spec.client options)
        ++ spec.plans.flatMap (fun plan => (Render.method plan).lookups (spec.client options))
        ++ (Render.send.lookups (spec.client options)
          ++ (Render.sendNoContent.lookups (spec.client options) ++ [])) := by
    rw [Item.lookups]
    change ((Member.function Render.constructor
      :: spec.plans.map (fun plan => Member.function (Render.method plan)))
      ++ [Member.function Render.send, Member.function Render.sendNoContent]).flatMap _ = _
    rw [List.flatMap_append, List.flatMap_cons, List.flatMap_map]
    rfl
  have hmodule : (spec.module options).lookups =
      (spec.definitions.map Render.definition).flatMap Item.lookups
        ++ (Item.classDef (spec.client options)).lookups := by
    rw [module, Module.lookups, Render.flatMap_module _ rfl fun _ => rfl, List.flatMap_map]
    rfl
  rw [hmodule, hclient, Render.lookups_support Render.constructor,
    Render.lookups_support Render.send, Render.lookups_support Render.sendNoContent]
  simp [Render.lookups_definition, Render.lookups_method, uses, List.map_flatMap,
    List.flatMap_map]

end Spec

end TypedClient
