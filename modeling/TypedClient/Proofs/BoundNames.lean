import Mathlib.Data.List.Find
import TypedClient.Platform
import TypedClient.Proofs.ImportedModule
import TypedClient.Proofs.Scope

namespace TypedClient

open Target

namespace Target

namespace Class

theorem bound_constructor (c : Class) : c.bound "__init__" = "__init__" := by
  have hbound : Target.bound "__init__" = "__init__" := by decide +kernel
  have hsuffix : ['_', '_'].isSuffixOf "__init__".toList = true := by decide +kernel
  rw [bound, hbound, privateName, hsuffix]
  simp only [Bool.not_true, Bool.and_false, Bool.false_and, Bool.false_eq_true, if_false]

theorem foldl_putField {fields acc : List ModelField}
    (h : ((acc ++ fields).map (·.name)).Nodup) : fields.foldl putField acc = acc ++ fields := by
  induction fields generalizing acc with
  | nil => simp
  | cons f rest ih =>
    have hnew : acc.any (·.name = f.name) = false := by
      rw [List.any_eq_false]
      intro g hg heq
      have heq := of_decide_eq_true heq
      rw [List.map_append, List.nodup_append'] at h
      exact h.2.2 (heq ▸ List.mem_map_of_mem hg) (List.mem_map_of_mem List.mem_cons_self)
    rw [List.foldl_cons, putField, hnew, if_neg Bool.false_ne_true, ih, List.append_assoc]
    · rfl
    · rwa [List.append_assoc]

end Class

theorem Member.isRemark_of_hasCode {member : Member} (h : member.hasCode = false) :
    member.isRemark = false := by
  unfold Member.hasCode at h
  split at h
  next target hint value =>
    have hcode : isCode target = false := (Bool.or_eq_false_iff.1 h).1
    have hmark : target.toList.any (fun c => c < ' ' || codeMarks.contains c) = false :=
      (Bool.or_eq_false_iff.1 (Bool.or_eq_false_iff.1 hcode).1).1
    have hhead : target.toList.head? ≠ some '#' := by
      intro hhead
      have hmem : '#' ∈ target.toList := List.mem_of_head? hhead
      have hany : target.toList.any (fun c => c < ' ' || codeMarks.contains c) = true :=
        List.any_eq_true.2 ⟨'#', hmem, by decide⟩
      rw [hmark] at hany
      cases hany
    simp [Member.isRemark, hhead]
  next st hother =>
    cases st with
    | annotated target hint value => exact absurd rfl (hother target hint value)
    | _ => rfl
  next => rfl

end Target

namespace Render

theorem field?_fieldStatement (c : Target.Class) (f : Field) :
    c.field? (.stmt (fieldStatement f)) =
      some ⟨c.bound f.name, f.sourceName, f.required, f.type.toTarget⟩ := by
  unfold fieldStatement fieldDefault
  split
  next h =>
    rw [h]
    rfl
  next h =>
    have hrequired : f.required = false := by simpa using h
    rw [hrequired]
    cases f.factory <;> rfl

theorem shape_modelClass {name : String} {fields : List Field}
    (hremark : ∀ member ∈ (modelClass name fields).body, member.isRemark = false)
    (hnodup : (fields.map fun f => (modelClass name fields).bound f.name).Nodup) :
    (modelClass name fields).shape = fields.map fun f => (f.sourceName, f.required) := by
  have hmembers : (modelClass name fields).members =
      .stmt modelConfig :: fields.map fun f => .stmt (fieldStatement f) := by
    refine List.filter_eq_self.2 fun member hmember => ?_
    rw [hremark member hmember]
    rfl
  have hfields : (modelClass name fields).members.filterMap (modelClass name fields).field? =
      fields.map fun f =>
        ⟨(modelClass name fields).bound f.name, f.sourceName, f.required, f.type.toTarget⟩ := by
    have hfield : (modelClass name fields).field? ∘ (fun f => .stmt (fieldStatement f)) =
        some ∘ fun f : Field =>
          ⟨(modelClass name fields).bound f.name, f.sourceName, f.required, f.type.toTarget⟩ :=
      funext fun f => field?_fieldStatement _ f
    rw [hmembers, List.filterMap_cons_none rfl, List.filterMap_map, hfield, List.filterMap_eq_map]
  rw [Class.shape, Class.fields, hfields, Class.foldl_putField]
  · simp
  · simpa [Function.comp_def] using hnodup

theorem bound_helpers : ∀ name ∈ [sendHelper, sendNoContentHelper],
    Target.bound name = name ∧ isHidden name = false := by
  decide +kernel

theorem functions_clientClass (className : String) (plans : List Plan) :
    (clientClass className plans).functions =
      constructor :: plans.map method ++ [send, sendNoContent] := by
  have hmembers : (clientClass className plans).members = (clientClass className plans).body := by
    refine List.filter_eq_self.2 fun member hmember => ?_
    simp only [clientClass, List.mem_append, List.mem_cons, List.mem_map, List.not_mem_nil,
      or_false] at hmember
    rcases hmember with (rfl | ⟨plan, -, rfl⟩) | rfl | rfl <;> rfl
  rw [Class.functions, hmembers, clientClass, List.filterMap_append, List.filterMap_cons,
    List.filterMap_map]
  change constructor :: plans.filterMap (some ∘ method) ++ [send, sendNoContent] = _
  rw [List.filterMap_eq_map]

end Render

namespace Plan

def names (plan : Plan) : List String := plan.methodName :: plan.parameters.map (·.name)

end Plan

namespace Definition

def DeclaresFields : Definition → Prop
  | model name fields => (fields.map fun f => (Render.modelClass name fields).bound f.name).Nodup
  | typeAlias .. => True

instance : DecidablePred DeclaresFields
  | model _ _ => inferInstanceAs (Decidable (List.Nodup _))
  | typeAlias .. => inferInstanceAs (Decidable True)

end Definition

namespace Spec

def Visible (spec : Spec) : Prop :=
  ∀ name ∈ spec.schemaNames ++ spec.plans.flatMap Plan.names, isHidden name = false

/-- Names are names and are bound as they are written, models have all their fields, and the client
class is not called like what every module knows of itself. -/
structure BindsAsWritten (spec : Spec) (options : Options) : Prop where
  plain : (spec.module options).hasCode = false
  definitions : ∀ d ∈ spec.definitions, Target.bound d.name = d.name
  methods : ∀ plan ∈ spec.plans, ∀ name ∈ plan.names, Target.bound name = name
  fields : ∀ d ∈ spec.definitions, d.DeclaresFields
  className : Target.bound options.className = options.className
  client : firmModuleAttribute? options.className = none

def signatures (spec : Spec) : List (String × List String) :=
  spec.plans.map (fun plan => (plan.methodName, plan.parameters.map (·.name)))
    ++ [(Render.sendHelper, ["path", "method", "response_type", "body"]),
      (Render.sendNoContentHelper, ["path", "method", "body"])]

def lastSignature? (spec : Spec) (name : String) : Option (List String) :=
  (spec.signatures.reverse.find? fun signature => signature.1 = name).map (·.2)

def requestMethods (spec : Spec) : List Function :=
  spec.plans.map Render.method ++ [Render.send, Render.sendNoContent]

variable {spec : Spec} {options : Options}

theorem lastBound?_eq (hwritten : spec.BindsAsWritten options) (name : String) :
    spec.lastBound? name = spec.lastDefinition? name := by
  refine List.find?_congr fun d hd => ?_
  rw [hwritten.definitions d (List.mem_reverse.1 hd)]

theorem lastItem?_of_lastDefinition? (hwarnings : spec.warnings options = [])
    (hwritten : spec.BindsAsWritten options) {name : String} {d : Definition}
    (hd : spec.lastDefinition? name = some d) :
    (spec.module options).lastItem? name = some (Render.definition d) := by
  have hclass : options.className ≠ name := by
    rintro rfl
    exact not_mem_reservedNames hwarnings (name_mem_of_lastDefinition? hd)
      (List.mem_append_right _ (List.mem_singleton_self _))
  rw [lastItem?_module, hwritten.className, if_neg hclass, lastBound?_eq hwritten, hd]
  rfl

theorem isRemark_modelClass (hwritten : spec.BindsAsWritten options) {name : String}
    {fields : List Field} (hd : Definition.model name fields ∈ spec.definitions) :
    ∀ member ∈ (Render.modelClass name fields).body, member.isRemark = false := by
  intro member hmember
  have hitem : Item.classDef (Render.modelClass name fields) ∈ (spec.module options).items := by
    refine List.mem_append_left _ (List.mem_append_right _ ?_)
    exact List.mem_map.2 ⟨_, hd, rfl⟩
  have hplain := (Bool.or_eq_false_iff.1 hwritten.plain).1
  have hclass := List.any_eq_false.1 hplain _ hitem
  have hbody := (Bool.or_eq_false_iff.1 (Bool.eq_false_iff.2 hclass)).2
  exact Member.isRemark_of_hasCode (Bool.eq_false_iff.2 (List.any_eq_false.1 hbody member hmember))

theorem shape_of_written (hwritten : spec.BindsAsWritten options) {name : String}
    {fields : List Field} (hd : Definition.model name fields ∈ spec.definitions) :
    (Render.modelClass name fields).shape = fields.map fun f => (f.sourceName, f.required) :=
  Render.shape_modelClass (isRemark_modelClass hwritten hd) (hwritten.fields _ hd)

theorem parameterNames_of_names {c : Target.Class} {f : Function} {names : List String}
    (h : f.signature.arguments.map (·.name) = "self" :: names)
    (hnames : ∀ name ∈ names,
      Target.bound name = name ∧ isHidden name = false ∧ name ≠ "self") :
    c.parameterNames f = names := by
  have hself : c.bound "self" = "self" := c.bound_eq (by decide +kernel) (by decide +kernel)
  have hbound : names.map c.bound = names := by
    refine (List.map_congr_left fun name hname => ?_).trans (List.map_id names)
    exact c.bound_eq (hnames name hname).1 (hnames name hname).2.1
  have hmap : (f.signature.arguments.map fun a => c.bound a.name) = "self" :: names := by
    have hcomp := congrArg (List.map c.bound) h
    simpa only [List.map_map, Function.comp_def, List.map_cons, hself, hbound] using hcomp
  rw [Class.parameterNames, hmap, List.filter_cons_of_neg (by simp), List.filter_eq_self]
  exact fun name hname => decide_eq_true (hnames name hname).2.2

theorem visible_plan (hvisible : spec.Visible) {plan : Plan} (hplan : plan ∈ spec.plans)
    {name : String} (hname : name ∈ plan.names) : isHidden name = false :=
  hvisible name (List.mem_append_right _ (List.mem_flatMap.2 ⟨plan, hplan, hname⟩))

theorem parameterNames_method (hvisible : spec.Visible) (hwritten : spec.BindsAsWritten options)
    {plan : Plan} (hplan : plan ∈ spec.plans) (c : Target.Class) :
    c.parameterNames (Render.method plan) = plan.parameters.map (·.name) := by
  refine parameterNames_of_names (Render.map_name_arguments_signature plan) fun name hname => ?_
  have hmem : name ∈ plan.names := List.mem_cons_of_mem _ hname
  refine ⟨hwritten.methods plan hplan name hmem, visible_plan hvisible hplan hmem, ?_⟩
  rintro rfl
  obtain ⟨endpoint, -, rfl⟩ := List.mem_map.1 hplan
  obtain ⟨p, hp, hself⟩ := List.mem_map.1 hname
  exact (Plan.safe_ofEndpoint endpoint).not_local p hp (by simp [hself])

theorem signatures_eq (hvisible : spec.Visible) (hwritten : spec.BindsAsWritten options)
    (c : Target.Class) :
    spec.signatures = spec.requestMethods.map fun f => (f.name, c.parameterNames f) := by
  have hhelpers : ∀ name ∈ ["path", "method", "response_type", "body"],
      Target.bound name = name ∧ isHidden name = false ∧ name ≠ "self" := by
    decide +kernel
  have hsend : c.parameterNames Render.send = ["path", "method", "response_type", "body"] :=
    parameterNames_of_names rfl hhelpers
  have hsendNoContent : c.parameterNames Render.sendNoContent = ["path", "method", "body"] := by
    refine parameterNames_of_names rfl fun name hname => hhelpers name ?_
    have hsubset : ["path", "method", "body"] ⊆ ["path", "method", "response_type", "body"] := by
      decide
    exact hsubset hname
  have hplans : spec.plans.map (fun plan => (plan.methodName, plan.parameters.map (·.name))) =
      (spec.plans.map Render.method).map fun f => (f.name, c.parameterNames f) := by
    rw [List.map_map]
    refine List.map_congr_left fun plan hplan => ?_
    rw [Function.comp_apply, parameterNames_method hvisible hwritten hplan]
    rfl
  rw [signatures, requestMethods, List.map_append, hplans, List.map_cons, List.map_cons, hsend,
    hsendNoContent]
  rfl

theorem name_requestMethod {f : Function} (hf : f ∈ spec.requestMethods) :
    (∃ plan ∈ spec.plans, f.name ∈ plan.names) ∨
      f.name ∈ [Render.sendHelper, Render.sendNoContentHelper] := by
  rcases List.mem_append.1 hf with hf | hf
  · obtain ⟨plan, hplan, rfl⟩ := List.mem_map.1 hf
    exact .inl ⟨plan, hplan, List.mem_cons_self⟩
  · have hname := List.mem_map_of_mem (f := Function.name) hf
    exact .inr hname

theorem visible_requestMethod (hvisible : spec.Visible) {f : Function}
    (hf : f ∈ spec.requestMethods) : isHidden f.name = false := by
  rcases name_requestMethod hf with ⟨plan, hplan, hname⟩ | hname
  · exact visible_plan hvisible hplan hname
  · exact (Render.bound_helpers _ hname).2

theorem bound_requestMethod (hvisible : spec.Visible) (hwritten : spec.BindsAsWritten options)
    (c : Target.Class) {f : Function} (hf : f ∈ spec.requestMethods) :
    c.bound f.name = f.name := by
  refine c.bound_eq ?_ (visible_requestMethod hvisible hf)
  rcases name_requestMethod hf with ⟨plan, hplan, hname⟩ | hname
  · exact hwritten.methods plan hplan _ hname
  · exact (Render.bound_helpers _ hname).1

theorem isAsync_requestMethod {f : Function} (hf : f ∈ spec.requestMethods) : f.isAsync = true := by
  rcases List.mem_append.1 hf with hf | hf
  · obtain ⟨plan, -, rfl⟩ := List.mem_map.1 hf
    rfl
  · simp only [List.mem_cons, List.not_mem_nil, or_false] at hf
    rcases hf with rfl | rfl <;> rfl

theorem method?_clientClass (hvisible : spec.Visible) (hwritten : spec.BindsAsWritten options)
    (className name : String) :
    (Render.clientClass className spec.plans).method? name =
      (spec.requestMethods.reverse.find? fun f => f.name = name).or
        (if "__init__" = name then some Render.constructor else none) := by
  have hfunctions : (Render.clientClass className spec.plans).functions =
      Render.constructor :: spec.requestMethods := Render.functions_clientClass _ _
  have hbound : ∀ f ∈ (Render.constructor :: spec.requestMethods).reverse,
      decide ((Render.clientClass className spec.plans).bound f.name = name) =
        decide (f.name = name) := by
    intro f hf
    rcases List.mem_cons.1 (List.mem_reverse.1 hf) with rfl | hf
    · rw [show Render.constructor.name = "__init__" from rfl, Class.bound_constructor]
    · rw [bound_requestMethod hvisible hwritten _ hf]
  rw [Class.method?, hfunctions, List.find?_congr hbound, List.reverse_cons, List.find?_append,
    List.find?_singleton]
  have hname : Render.constructor.name = "__init__" := rfl
  simp [hname]

theorem lastSignature?_eq (hvisible : spec.Visible) (hwritten : spec.BindsAsWritten options)
    (c : Target.Class) (name : String) :
    spec.lastSignature? name =
      (spec.requestMethods.reverse.find? fun f => f.name = name).map c.parameterNames := by
  rw [lastSignature?, signatures_eq hvisible hwritten c, ← List.map_reverse, List.find?_map,
    Option.map_map]
  rfl

end Spec

end TypedClient
