import TypedClient.Proofs.Meaning

namespace TypedClient

open Target

namespace Target

namespace Stmt

mutual

def hints : Stmt → List Expr
  | annotated _ hint _ => [hint]
  | ifThen _ body => hintsAll body
  | _ => []

def hintsAll : List Stmt → List Expr
  | [] => []
  | s :: rest => hints s ++ hintsAll rest

end

def replyType? : Stmt → Option Expr
  | ret (.await (.call _ (_ :: _ :: type :: _) _)) => some type
  | _ => none

end Stmt

def Function.typePlaces (f : Function) : List Expr :=
  f.signature.arguments.filterMap (·.hint) ++ Stmt.hintsAll f.body
    ++ f.body.filterMap Stmt.replyType? ++ [f.returns]

def Member.typePlaces : Member → List Expr
  | .stmt (.annotated _ hint value) => [hint, value]
  | .stmt (.assign _ value) => [value]
  | .stmt _ => []
  | .function f => f.typePlaces

/-- Values of aliases, base classes, what a class declares its fields with, hints of parameters and
locals, return types and what replies are read as. -/
def Item.typePlaces : Item → List Expr
  | .typeAlias _ value => [value]
  | .classDef c => c.bases ++ c.body.flatMap Member.typePlaces
  | _ => []

def Module.typePlaces (m : Module) : List Expr := m.items.flatMap Item.typePlaces

end Target

namespace Definition

def ownFields : Definition → List Field
  | model _ fields => fields
  | typeAlias .. => []

end Definition

namespace Render

theorem filterMap_hint_signature (plan : Plan) :
    (signature plan).arguments.filterMap (·.hint) =
      plan.parameters.map (·.type.toTarget) := by
  unfold signature
  cases hbody : plan.body with
  | none =>
    simp [Signature.arguments, Plan.parameters, hbody, self, List.filterMap_map, argument,
      Function.comp_def]
  | some body =>
    by_cases hquery : plan.queryParameters = []
    · simp [Signature.arguments, Plan.parameters, hbody, hquery, self, List.filterMap_map, argument,
        Function.comp_def]
    · simp [Signature.arguments, Plan.parameters, hbody, hquery, self, List.filterMap_map, argument,
        Function.comp_def]

def modelBase : Expr := qualified "pydantic" "BaseModel"

def configCall : Expr :=
  .call (qualified "pydantic" "ConfigDict") [] [("populate_by_name", .constant .true)]

def queryHint : Expr := .subscript (.name "list") [.name "str"]

def supportPlaces : List Expr :=
  [modelBase, configCall, queryHint, none] ++ constructor.typePlaces ++ send.typePlaces
    ++ sendNoContent.typePlaces

theorem typePlaces_model (name : String) (fields : List Field) :
    (definition (.model name fields)).typePlaces =
      [modelBase, configCall] ++ fields.flatMap fun f => [f.type.toTarget, fieldDefault f] := by
  simp [definition, modelClass, Item.typePlaces, Member.typePlaces, modelConfig, fieldStatement,
    List.flatMap_map, modelBase, configCall]

theorem hintsAll_append (xs ys : List Stmt) :
    Stmt.hintsAll (xs ++ ys) = Stmt.hintsAll xs ++ Stmt.hintsAll ys := by
  induction xs with
  | nil => rfl
  | cons s rest ih => simp [Stmt.hintsAll, ih]

theorem hintsAll_queryGuards (ps : List PlannedParameter) :
    Stmt.hintsAll (ps.map queryGuard) = [] := by
  induction ps with
  | nil => rfl
  | cons p rest ih => simpa [Stmt.hintsAll, queryGuard, Stmt.hints] using ih

theorem hintsAll_body_method (plan : Plan) :
    Stmt.hintsAll (method plan).body =
      if plan.queryParameters = [] then [] else [queryHint] := by
  have hdispatch : Stmt.hints (dispatchStatement plan) = [] := by
    cases h : plan.returnType <;> simp [dispatchStatement, h, Stmt.hints]
  change Stmt.hintsAll (pathStatements plan ++ [dispatchStatement plan]) = _
  by_cases hempty : plan.queryParameters = []
  · simp [Stmt.hintsAll, hdispatch, pathStatements, hempty, Stmt.hints]
  · simp [hintsAll_append, Stmt.hintsAll, hdispatch, pathStatements, hempty, Stmt.hints,
      hintsAll_queryGuards, emptyQuery, queryHint]

theorem replyType?_pathStatements (plan : Plan) :
    (pathStatements plan).filterMap Stmt.replyType? = [] := by
  rw [List.filterMap_eq_nil_iff]
  intro s hs
  by_cases hempty : plan.queryParameters = []
  · simp only [pathStatements, hempty, List.isEmpty_nil, if_true, List.mem_singleton] at hs
    rw [hs]
    rfl
  · simp only [pathStatements, List.isEmpty_iff, hempty, if_false, List.mem_append, List.mem_cons,
      List.mem_map, List.not_mem_nil, or_false] at hs
    rcases hs with (rfl | ⟨p, -, rfl⟩) | rfl <;> rfl

theorem replyTypes_method (plan : Plan) :
    (method plan).body.filterMap Stmt.replyType? =
      plan.returnType.toList.map TypeExpr.toTarget := by
  change (pathStatements plan ++ [dispatchStatement plan]).filterMap Stmt.replyType? = _
  rw [List.filterMap_append, replyType?_pathStatements]
  cases h : plan.returnType <;> simp [dispatchStatement, dispatch, h, Stmt.replyType?]

theorem typePlaces_method (plan : Plan) :
    (method plan).typePlaces =
      plan.parameters.map (·.type.toTarget) ++ (if plan.queryParameters = [] then [] else [queryHint])
        ++ plan.returnType.toList.map TypeExpr.toTarget ++ [returns plan] := by
  rw [← filterMap_hint_signature, ← hintsAll_body_method, ← replyTypes_method]
  rfl

theorem typePlaces_clientClass (className : String) (plans : List Plan) :
    (Item.classDef (clientClass className plans)).typePlaces =
      constructor.typePlaces ++ plans.flatMap (fun plan => (method plan).typePlaces)
        ++ (send.typePlaces ++ sendNoContent.typePlaces) := by
  simp [clientClass, Item.typePlaces, Member.typePlaces, List.flatMap_map, List.append_assoc]

theorem flatMap_module {β : Type} (f : Item → List β) (hlate : f .lateAnnotations = [])
    (himported : ∀ name, f (.imported name) = []) (definitions : List Definition)
    (plans : List Plan) (options : Options) (info : Info) :
    (module definitions plans options info).items.flatMap f =
      definitions.flatMap (fun d => f (definition d))
        ++ f (.classDef (clientClass options.className plans)) := by
  simp [module, List.flatMap_map, hlate, himported]

end Render

namespace Spec

theorem typePlaces_module (spec : Spec) (options : Options) :
    (spec.module options).typePlaces =
      spec.definitions.flatMap (fun d => (Render.definition d).typePlaces)
        ++ (Render.constructor.typePlaces
          ++ spec.plans.flatMap (fun plan => (Render.method plan).typePlaces)
          ++ (Render.send.typePlaces ++ Render.sendNoContent.typePlaces)) := by
  rw [module, Module.typePlaces, Render.flatMap_module _ rfl fun _ => rfl,
    Render.typePlaces_clientClass]

inductive Place (spec : Spec) : Expr → Prop
  | support {e : Expr} : e ∈ Render.supportPlaces → Place spec e
  | type {t : TypeExpr} : t ∈ spec.types → Place spec t.toTarget
  | optional {t : TypeExpr} : t ∈ spec.types → Place spec t.optional.toTarget
  | fieldDefault {d : Definition} {f : Field} :
      d ∈ spec.definitions → f ∈ d.ownFields → Place spec (Render.fieldDefault f)

variable {spec : Spec}

theorem place_of_mem_definition {d : Definition} (hd : d ∈ spec.definitions) {e : Expr}
    (he : e ∈ (Render.definition d).typePlaces) : spec.Place e := by
  have htypes : ∀ t ∈ Render.definitionTypes d, t ∈ spec.types := fun t ht =>
    List.mem_append_left _ (List.mem_flatMap.2 ⟨d, hd, ht⟩)
  cases d with
  | model name fields =>
    rw [Render.typePlaces_model] at he
    rcases List.mem_append.1 he with he | he
    · refine .support (List.mem_append_left _ (List.mem_append_left _ (List.mem_append_left _ ?_)))
      exact List.mem_append_left [Render.queryHint, Render.none] he
    · obtain ⟨f, hf, he⟩ := List.mem_flatMap.1 he
      simp only [List.mem_cons, List.not_mem_nil, or_false] at he
      rcases he with rfl | rfl
      · exact .type (htypes _ (List.mem_map_of_mem hf))
      · exact .fieldDefault hd hf
  | typeAlias name type =>
    obtain rfl := List.mem_singleton.1 he
    exact .type (htypes _ (List.mem_singleton_self _))

theorem place_of_mem_method {plan : Plan} (hplan : plan ∈ spec.plans) {e : Expr}
    (he : e ∈ (Render.method plan).typePlaces) : spec.Place e := by
  have htypes : ∀ t ∈ Render.planTypes plan, t ∈ spec.types := fun t ht =>
    List.mem_append_right _ (List.mem_flatMap.2 ⟨plan, hplan, ht⟩)
  have hreturn : ∀ t, plan.returnType = some t → t ∈ spec.types := fun t ht =>
    htypes t (List.mem_append_right _ (Option.mem_toList.2 ht))
  rw [Render.typePlaces_method] at he
  simp only [List.mem_append, List.mem_map, List.mem_singleton, Option.mem_toList] at he
  rcases he with ((⟨p, hp, rfl⟩ | he) | ⟨t, ht, rfl⟩) | rfl
  · exact .type (htypes _ (List.mem_append_left _ (List.mem_map_of_mem hp)))
  · split at he
    · cases he
    · obtain rfl := List.mem_singleton.1 he
      exact .support (by simp [Render.supportPlaces])
  · exact .type (hreturn t ht)
  · cases h : plan.returnType with
    | none => exact .support (by simp [Render.returns, h, Render.supportPlaces])
    | some t => simpa [Render.returns, h] using Place.optional (hreturn t h)

theorem place_of_mem {options : Options} {e : Expr} (he : e ∈ (spec.module options).typePlaces) :
    spec.Place e := by
  rw [typePlaces_module] at he
  simp only [List.mem_append, List.mem_flatMap] at he
  rcases he with ⟨d, hd, he⟩ | (he | ⟨plan, hplan, he⟩) | he | he
  · exact place_of_mem_definition hd he
  · exact .support (by simp [Render.supportPlaces, he])
  · exact place_of_mem_method hplan he
  · exact .support (by simp [Render.supportPlaces, he])
  · exact .support (by simp [Render.supportPlaces, he])

theorem toTarget_mem_typePlaces (options : Options) {t : TypeExpr} (ht : t ∈ spec.types) :
    t.toTarget ∈ (spec.module options).typePlaces := by
  rw [typePlaces_module]
  simp only [List.mem_append, List.mem_flatMap]
  rcases List.mem_append.1 ht with ht | ht
  · obtain ⟨d, hd, ht⟩ := List.mem_flatMap.1 ht
    refine .inl ⟨d, hd, ?_⟩
    cases d with
    | model name fields =>
      obtain ⟨f, hf, rfl⟩ := List.mem_map.1 ht
      rw [Render.typePlaces_model]
      exact List.mem_append_right _ (List.mem_flatMap.2 ⟨f, hf, List.mem_cons_self⟩)
    | typeAlias name type =>
      obtain rfl := List.mem_singleton.1 ht
      exact List.mem_singleton_self _
  · obtain ⟨plan, hplan, ht⟩ := List.mem_flatMap.1 ht
    refine .inr (.inl (.inr ⟨plan, hplan, ?_⟩))
    rw [Render.typePlaces_method]
    simp only [List.mem_append, List.mem_map]
    rcases List.mem_append.1 ht with ht | ht
    · obtain ⟨p, hp, rfl⟩ := List.mem_map.1 ht
      exact .inl (.inl (.inl ⟨p, hp, rfl⟩))
    · exact .inl (.inr ⟨t, ht, rfl⟩)

end Spec

end TypedClient
